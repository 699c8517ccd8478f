import SchemaTypings.Text.Blank
import SchemaTypings.Text.Split

/-!
# Documentation comments

A documentation comment holds lines of free text. The pair that would end the comment early is
written with a backslash between its characters.
-/

namespace SchemaTypings.Typing

/-- A line with the pair that ends comments taken apart. -/
def commentLine (line : List Char) : String :=
  String.ofList (Text.replacePair '*' '/' ['*', '\\', '/'] line)

/-- The lines of the texts, without the blanks at their ends. -/
def commentLines (texts : List String) : List (List Char) :=
  texts.flatMap fun text => (Text.lines text.toList).map Text.trimEnd

/-- One line of a comment of several. -/
def commentRow (indent : String) (line : List Char) : String :=
  if line.isEmpty then s!"{indent} *\n" else s!"{indent} * {commentLine line}\n"

/-- The comment that holds the texts, indented; nothing if they have no lines. -/
def docComment (texts : List String) (indent : String) : String :=
  match commentLines texts with
  | [] => ""
  | [line] => s!"{indent}/** {commentLine line} */\n"
  | rows => s!"{indent}/**\n" ++ String.join (rows.map (commentRow indent)) ++ s!"{indent} */\n"

end SchemaTypings.Typing
