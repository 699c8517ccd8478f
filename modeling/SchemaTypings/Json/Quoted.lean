/-!
# Quoted texts

The quoted form of a text: between double quotes, with an escape for the quote itself, the backslash
and the control characters. It is the form of strings in JSON and of string literals in typings.
-/

namespace SchemaTypings

namespace Quoted

def mark : Char := '\x22'

/-- The hexadecimal escape of a control character. -/
def hexEscape (c : Char) : List Char :=
  ['\\', 'u', '0', '0', Nat.digitChar (c.toNat / 16), Nat.digitChar (c.toNat % 16)]

/-- How a character is written between the quotes. -/
def escape (c : Char) : List Char :=
  if c == mark then ['\\', mark]
  else if c == '\\' then ['\\', '\\']
  else if c == '\x08' then ['\\', 'b']
  else if c == '\t' then ['\\', 't']
  else if c == '\n' then ['\\', 'n']
  else if c == '\x0c' then ['\\', 'f']
  else if c == '\x0d' then ['\\', 'r']
  else if c.toNat < 0x20 then hexEscape c
  else [c]

/-- The characters of the quoted form. -/
def encode (cs : List Char) : List Char :=
  mark :: cs.flatMap escape ++ [mark]

end Quoted

def quoted (text : String) : String :=
  String.ofList (Quoted.encode text.toList)

end SchemaTypings
