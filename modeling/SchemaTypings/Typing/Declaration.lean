import SchemaTypings.Name.Identifier
import SchemaTypings.Text.Blank
import SchemaTypings.Text.WordCharacter
import SchemaTypings.Text.Split

/-!
# Declarations

A declaration is a named piece of a module, with the names of the types it refers to. A name can be
recovered from a text: it follows the first keyword that introduces one.
-/

namespace SchemaTypings.Typing

/-- What a declaration introduces. -/
inductive DeclarationKind where
  | typeAlias
  | interface
  | enum
  | const
  | function
  deriving DecidableEq, Repr

/-- One declaration at the top level of a module. -/
structure Declaration where
  name : String
  kind : DeclarationKind
  content : String
  dependencies : List String := []
  deriving DecidableEq, Repr

/-- The keywords after which a declared name stands. -/
def declaringKeywords : List (List Char) :=
  ["type", "interface", "function", "const", "enum"].map String.toList

/-- What follows the blanks at the start of the text, of which there is at least one. -/
def pastSomeBlanks? (cs : List Char) : Option (List Char) :=
  match cs with
  | c :: rest => if Text.isBlank c then some (rest.dropWhile Text.isBlank) else none
  | [] => none

/-- The identifier at the start of the text. -/
def leadingIdentifier? (cs : List Char) : Option (List Char) :=
  match cs with
  | c :: rest =>
    if Name.startsIdentifier c then some (c :: rest.takeWhile Name.continuesIdentifier) else none
  | [] => none

/-- The name that follows a declaring keyword and blanks at the start of the text. -/
def nameAfterKeyword? (cs : List Char) : Option (List Char) :=
  declaringKeywords.findSome? fun keyword =>
    ((Text.dropLead? keyword cs).bind pastSomeBlanks?).bind leadingIdentifier?

/-- The first name declared in the text; a keyword counts only at the beginning of a word. -/
def declaredNameFrom (withinWord : Bool) : List Char → Option (List Char)
  | [] => none
  | c :: rest =>
    let here := if withinWord then none else nameAfterKeyword? (c :: rest)
    here <|> declaredNameFrom (Text.isWordCharacter c) rest

/-- The name that the text of a declaration introduces. -/
def declaredName? (text : String) : Option String :=
  (declaredNameFrom false text.toList).map String.ofList

end SchemaTypings.Typing
