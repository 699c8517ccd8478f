import SchemaTypings.Json.Basic
import SchemaTypings.Number.Word
import SchemaTypings.Text.Split

/-!
# JSON pointers

A pointer names a place in a value by the keys and positions on the way to it. In its text the
segments follow a slash each, and `~1` and `~0` stand for a slash and a tilde within a segment.
-/

namespace SchemaTypings

namespace Pointer

/-- The text of a segment with `~1` and `~0` read as slash and tilde. -/
def unescape (segment : List Char) : List Char :=
  Text.replacePair '~' '0' ['~'] (Text.replacePair '~' '1' ['/'] segment)

/-- How a character of a key is written in a segment. -/
def escapeChar (c : Char) : List Char :=
  if c == '~' then ['~', '0'] else if c == '/' then ['~', '1'] else [c]

/-- The segment that names a key. -/
def escape (key : List Char) : List Char :=
  key.flatMap escapeChar

/-- The last segment of a pointer text, as it is written. -/
def lastSegment (text : List Char) : List Char :=
  (Text.fields '/' text).getLast (Text.fields_ne_nil '/' text)

/-- The key that the last segment of a pointer text names. -/
def lastKey (text : String) : String :=
  String.ofList (unescape (lastSegment text.toList))

/-- The keys that a pointer text names: none when it is empty; otherwise it begins with a slash. -/
def keys? (text : String) : Option (List String) :=
  match text.toList with
  | [] => some []
  | '/' :: rest => some ((Text.fields '/' rest).map fun segment => String.ofList (unescape segment))
  | _ => none

/-- The position in a list that a key stands for: digits, without sign or leading zero. -/
def position? (key : String) : Option Nat :=
  match key.toList with
  | '+' :: _ => none
  | '0' :: _ :: _ => none
  | cs => Word64.read? cs

end Pointer

namespace Json

/-- One step down: the member of an object under a key, or the item of a list at a position. -/
def child? (value : Json) (key : String) : Option Json :=
  match value with
  | .obj members => members.lookup key
  | .arr items => (Pointer.position? key).bind (items[·]?)
  | _ => none

def walk? (value : Json) : List String → Option Json
  | [] => some value
  | key :: rest => (value.child? key).bind (walk? · rest)

def atPointer? (value : Json) (pointer : String) : Option Json :=
  (Pointer.keys? pointer).bind value.walk?

end Json

end SchemaTypings
