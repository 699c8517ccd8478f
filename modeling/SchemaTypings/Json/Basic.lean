import SchemaTypings.Number.Binary64

/-!
# JSON values

A value keeps what its text says: whole numbers and doubles are different kinds of number, and the
members of an object keep their order. `Json.equals` is equality of values as data: the two zeros are
equal, and so are two objects with the same members in different orders.
-/

namespace SchemaTypings

/-- A JSON value. Whole numbers lie between `-2 ^ 63` and `2 ^ 64 - 1`; the members of an object have
distinct keys. -/
inductive Json where
  | null
  | bool (value : Bool)
  | int (value : Int)
  | float (value : Binary64)
  | str (value : String)
  | arr (items : List Json)
  | obj (members : List (String × Json))
  deriving Inhabited, Repr

namespace Json

/-- The members with `key` bound to `value`: in the place of the key if it is there, else at the
end. -/
def setMember (key : String) (value : Json) : List (String × Json) → List (String × Json)
  | [] => [(key, value)]
  | (k, v) :: rest => if k == key then (k, value) :: rest else (k, v) :: setMember key value rest

def members? : Json → Option (List (String × Json))
  | .obj members => some members
  | _ => none

def member? (key : String) (value : Json) : Option Json :=
  value.members?.bind (·.lookup key)

def isString : Json → Bool
  | .str _ => true
  | _ => false

def isNumber : Json → Bool
  | .int _ => true
  | .float _ => true
  | _ => false

/-- Whether the value can stand for a schema: an object, or a truth value. -/
def isSchemaLike : Json → Bool
  | .obj _ => true
  | .bool _ => true
  | _ => false

mutual

/-- Equality of values as data. -/
def equals : Json → Json → Bool
  | .null, .null => true
  | .bool a, .bool b => a == b
  | .int a, .int b => a == b
  | .float a, .float b => a.numEq b
  | .str a, .str b => a == b
  | .arr as, .arr bs => equalItems as bs
  | .obj as, .obj bs => as.length == bs.length && equalMembers as bs
  | _, _ => false

/-- Whether two lists hold equal values in the same order. -/
def equalItems : List Json → List Json → Bool
  | [], [] => true
  | a :: as, b :: bs => equals a b && equalItems as bs
  | _, _ => false

/-- Whether every member of the first list has an equal member under its key in the second. -/
def equalMembers : List (String × Json) → List (String × Json) → Bool
  | [], _ => true
  | (key, a) :: rest, bs =>
    (match bs.lookup key with
      | some b => equals a b
      | none => false) && equalMembers rest bs

end

/-- Whether some value of the list equals `value`. -/
def isIn (value : Json) (values : List Json) : Bool :=
  values.any fun other => equals other value

mutual

/-- Every string that stands as a value in the tree, in order. -/
def strings : Json → List String
  | .str s => [s]
  | .arr items => stringsOfItems items
  | .obj members => stringsOfMembers members
  | _ => []

def stringsOfItems : List Json → List String
  | [] => []
  | item :: rest => strings item ++ stringsOfItems rest

def stringsOfMembers : List (String × Json) → List String
  | [] => []
  | (_, value) :: rest => strings value ++ stringsOfMembers rest

end

end Json

end SchemaTypings
