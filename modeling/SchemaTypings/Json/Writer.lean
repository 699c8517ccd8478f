import SchemaTypings.Json.Basic
import SchemaTypings.Json.Quoted
import SchemaTypings.Number.Decimal

/-!
# Values as text

`Json.compact` writes a value without spaces, members in their order. A literal in a typing is the
compact text; `Json.plainText` is the same but for strings, which stand bare.
-/

namespace SchemaTypings.Json

mutual

/-- The text of a value, without spaces. -/
def compact : Json → String
  | .null => "null"
  | .bool b => if b then "true" else "false"
  | .int n => n.repr
  | .float x => DecimalLayout.jsonText.format x
  | .str s => quoted s
  | .arr items => "[" ++ String.intercalate "," (compactItems items) ++ "]"
  | .obj members => "\x7b" ++ String.intercalate "," (compactMembers members) ++ "\x7d"

def compactItems : List Json → List String
  | [] => []
  | item :: rest => compact item :: compactItems rest

def compactMembers : List (String × Json) → List String
  | [] => []
  | (key, value) :: rest => (quoted key ++ ":" ++ compact value) :: compactMembers rest

end

/-- The literal that denotes the value in a typing. -/
def literal (value : Json) : String :=
  value.compact

/-- The value as plain text, from which keys and names are made: a string is itself. -/
def plainText : Json → String
  | .str s => s
  | value => value.compact

end SchemaTypings.Json
