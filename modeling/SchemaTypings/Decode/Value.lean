import SchemaTypings.Decode.Error

/-!
# Decoding JSON values

The readers for values that are not records: texts, numbers, truth values, lists and maps. An
optional value is absent when it is null.
-/

namespace SchemaTypings.Decode

/-- A failure because the value is of another kind. -/
def failWrongKind {α : Type} (value : Json) (wanted : Wanted) : Except Error α :=
  fail (.wrongKind (.ofJson value) wanted)

def asBoolean : Json → Except Error Bool
  | .bool b => .ok b
  | value => failWrongKind value .boolean

def asText : Json → Except Error String
  | .str s => .ok s
  | value => failWrongKind value .text

/-- A whole number that is not negative. -/
def asWord : Json → Except Error Nat
  | .int n => if n < 0 then fail (.outOfRange n .word64) else .ok n.toNat
  | value => failWrongKind value .word64

/-- A double; whole numbers are rounded to one. -/
def asDouble : Json → Except Error Binary64
  | .int n => .ok (Binary64.ofInt n)
  | .float x => .ok x
  | value => failWrongKind value .double

/-- The items from position `index` on, each read with `read`. -/
def readList {α : Type} (read : Json → Except Error α) : Nat → List Json → Except Error (List α)
  | _, [] => .ok []
  | index, item :: rest => do
    let first ← within (.index index) (read item)
    let others ← readList read (index + 1) rest
    return first :: others

/-- A list of values that are read with `read`. -/
def asList {α : Type} (read : Json → Except Error α) : Json → Except Error (List α)
  | .arr items => readList read 0 items
  | value => failWrongKind value .list

/-- The members, each value read with `read`. -/
def readMap {α : Type} (read : Json → Except Error α) :
    List (String × Json) → Except Error (List (String × α))
  | [] => .ok []
  | (key, value) :: rest => do
    let first ← within (.key key) (read value)
    let others ← readMap read rest
    return (key, first) :: others

/-- A map to values that are read with `read`. -/
def asMap {α : Type} (read : Json → Except Error α) : Json → Except Error (List (String × α))
  | .obj members => readMap read members
  | value => failWrongKind value .object

/-- A value that is read with `read`, unless it is null. -/
def optional {α : Type} (read : Json → Except Error α) : Json → Except Error (Option α)
  | .null => .ok none
  | value => (read value).map some

/-- A value that is read with the first alternative that takes it; errors within alternatives are
not told apart. -/
def choice {α : Type} (name : String) (alternatives : List (Json → Except Error α)) (value : Json) :
    Except Error α :=
  match alternatives.findSome? fun read => (read value).toOption with
  | some found => .ok found
  | none => fail (.noAlternative name)

end SchemaTypings.Decode
