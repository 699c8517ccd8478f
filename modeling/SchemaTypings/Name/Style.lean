import SchemaTypings.Json.Quoted
import SchemaTypings.Name.Identifier
import SchemaTypings.Text.Alphanumeric
import SchemaTypings.Text.CaseMapping
import SchemaTypings.Text.LetterCase

/-!
# Styles of names

A text is cut into words at every run of characters that are neither letters nor digits, and before
every capital that follows a small letter or a digit. Whatever the spelling (`userProfile`,
`user_profile`, `user-profile`), the words are the same up to case.

A name in a style is made of the words of a text: `UserProfile`, `userProfile`, `USER_PROFILE`,
`User Profile`. Type names and handler keys are identifiers in the first two styles.
-/

namespace SchemaTypings.Name

/-! ## Words -/

/-- The word, unless it is empty. -/
def closeWord (word : List Char) : List (List Char) :=
  if word.isEmpty then [] else [word]

/-- Whether a capital after the character begins a new word. -/
def endsHump (c : Char) : Bool :=
  Text.isLowercase c || c.isDigit

/-- The words of the text that follows the characters `word` of its first word, the last of which
ends a hump if `afterHump`. -/
def wordsAfter (word : List Char) (afterHump : Bool) : List Char → List (List Char)
  | [] => closeWord word
  | c :: rest =>
    if !Text.isAlphanumeric c then closeWord word ++ wordsAfter [] false rest
    else if Text.isUppercase c && afterHump && !word.isEmpty then
      word :: wordsAfter [c] (endsHump c) rest
    else wordsAfter (word ++ [c]) (endsHump c) rest

def words (cs : List Char) : List (List Char) :=
  wordsAfter [] false cs

/-! ## Styles -/

/-- The words run together, each with a capital at its beginning, made an identifier. -/
def pascalChars (cs : List Char) : List Char :=
  sanitizeChars ((words cs).flatMap Text.capitalize)

/-- A text as a type name: `user_profile` gives `UserProfile`. -/
def pascal (text : String) : String :=
  String.ofList (pascalChars text.toList)

/-- A text as a value name: `user_profile` gives `userProfile`. A leading underscore stays. -/
def camel (text : String) : String :=
  match pascalChars text.toList with
  | '_' :: rest => String.ofList ('_' :: rest)
  | cs => String.ofList (Text.uncapitalize cs)

/-- A text as a constant name: `inProgress` gives `IN_PROGRESS`. -/
def upperSnake (text : String) : String :=
  String.ofList (['_'].intercalate ((words text.toList).map Text.uppercase))

/-- A text as a title: `in_progress` gives `In Progress`. A text without words is its own. -/
def title (text : String) : String :=
  match words text.toList with
  | [] => text
  | found => String.ofList ([' '].intercalate (found.map fun word =>
      Text.capitalize (Text.lowercase word)))

/-- A property key: bare if it is an identifier, else quoted. -/
def propertyKey (name : String) : String :=
  if isIdentifier name then name else quoted name

theorem isIdentifier_pascal (text : String) : isIdentifier (pascal text) = true := by
  simp [isIdentifier, pascal, pascalChars, isIdentifierChars_sanitizeChars]

end SchemaTypings.Name
