import SchemaTypings.Json.Located
import SchemaTypings.Json.Writer
import SchemaTypings.Text.Escaped

/-!
# Why a value does not decode

A decoding error is a cause and the way from the root to the value where it arose. Values that come
from a text also have a place there.
-/

namespace SchemaTypings.Decode

/-- One step on the way to a value. -/
inductive Step where
  | key (name : String)
  | index (position : Nat)
  deriving DecidableEq, Repr

/-- The text of a way: keys are joined by points, positions stand in brackets; a point for the root. -/
def wayText (way : List Step) : String :=
  match way with
  | [] => "."
  | first :: rest => (match first with
      | .key name => name
      | .index position => s!"[{position}]") ++ String.join (rest.map fun
        | .key name => s!".{name}"
        | .index position => s!"[{position}]")

/-- What was found where something else was wanted. -/
inductive Found where
  | null
  | boolean (value : Bool)
  | integer (value : Int)
  | double (value : Binary64)
  | text (value : String)
  | list
  | object
  deriving DecidableEq, Repr

namespace Found

def ofJson : Json → Found
  | .null => null
  | .bool value => boolean value
  | .int value => integer value
  | .float value => double value
  | .str value => text value
  | .arr _ => list
  | .obj _ => object

def describe : Found → String
  | null => "null"
  | boolean value => s!"boolean \x60{value}\x60"
  | integer value => s!"integer \x60{value}\x60"
  | double value => s!"floating point \x60{DecimalLayout.jsonText.format value}\x60"
  | text value => s!"string {Text.shown value}"
  | list => "sequence"
  | object => "map"

end Found

/-- What was wanted. -/
inductive Wanted where
  | boolean
  | text
  | word64
  | size
  | double
  | list
  | object
  | nothing
  | spelling
  | record (name : String)
  deriving DecidableEq, Repr

def Wanted.describe : Wanted → String
  | boolean => "a boolean"
  | text => "a string"
  | word64 => "u64"
  | size => "usize"
  | double => "f64"
  | list => "a sequence"
  | object => "a map"
  | nothing => "unit"
  | spelling => "string or map"
  | record name => s!"struct {name}"

/-- Why a value does not decode. -/
inductive Cause where
  /-- A value of another kind was wanted. -/
  | wrongKind (found : Found) (wanted : Wanted)
  /-- The number is of the right kind and out of range. -/
  | outOfRange (value : Int) (wanted : Wanted)
  /-- The spelling is none of the allowed ones. -/
  | unknownSpelling (given : String) (allowed : List String)
  /-- None of the alternatives of the named choice fits. -/
  | noAlternative (choice : String)
  /-- The field is given twice. -/
  | repeatedField (field : String)
  /-- An object that stands for a spelling has not exactly one key. -/
  | notOneKey
  /-- The list has more items than the record has fields. -/
  | tooManyItems (count : Nat)
  /-- A text goes on after the last item of a record. -/
  | trailingText
  /-- A text goes on with something that is no such value. -/
  | noValue
  deriving DecidableEq, Repr

/-- The allowed spellings, as an error lists them. -/
def allowedText (allowed : List String) : String :=
  let ticked := allowed.map fun spelling => s!"\x60{spelling}\x60"
  match ticked with
  | [one] => one
  | [one, two] => s!"{one} or {two}"
  | many => "one of " ++ String.intercalate ", " many

def Cause.message : Cause → String
  | wrongKind found wanted => s!"invalid type: {found.describe}, expected {wanted.describe}"
  | outOfRange value wanted => s!"invalid value: integer \x60{value}\x60, expected {wanted.describe}"
  | unknownSpelling given allowed =>
    s!"unknown variant \x60{given}\x60, expected {allowedText allowed}"
  | noAlternative choice => s!"data did not match any variant of untagged enum {choice}"
  | repeatedField field => s!"duplicate field \x60{field}\x60"
  | notOneKey => "invalid value: map, expected map with a single key"
  | tooManyItems count => s!"invalid length {count}, expected fewer elements in array"
  | trailingText => "trailing characters"
  | noValue => "expected value"

/-- A decoding error: its cause, where in the value it arose, and where in the text, if there is
one. -/
structure Error where
  cause : Cause
  way : List Step := []
  place : Option Position := none
  deriving DecidableEq, Repr

namespace Error

/-- The same error, one step further from the value where it arose. -/
def under (step : Step) (error : Error) : Error :=
  { error with way := step :: error.way }

def message (error : Error) : String :=
  let place := match error.place with
    | some position => s!" at line {position.line} column {position.column}"
    | none => ""
  s!"at JSON path {wayText error.way} → {error.cause.message}{place}"

end Error

/-- The result of decoding a part that is reached by the step. -/
def within {α : Type} (step : Step) (result : Except Error α) : Except Error α :=
  result.mapError (Error.under step)

/-- A failure for the cause, at the value itself. -/
def fail {α : Type} (cause : Cause) : Except Error α :=
  .error { cause }

end SchemaTypings.Decode
