import SchemaTypings.Json.Basic

/-!
# Values with their places

A located value is a JSON text read as far as its grammar goes: every part keeps where it stands,
repeated keys are kept, and a scalar that is no JSON value after all (a number beyond the doubles, a
string with half a surrogate pair) is kept without a value. `Located.strict?` makes the JSON value.
-/

namespace SchemaTypings

/-- A place in a text: the line, counted from one, and the bytes of it that lie before. -/
structure Position where
  line : Nat
  column : Nat
  deriving DecidableEq, Repr, Inhabited

namespace Position

def next (position : Position) : Position :=
  { position with column := position.column + 1 }

def after (position : Position) (c : Char) : Position :=
  if c == '\n' then ⟨position.line + 1, 0⟩
  else { position with column := position.column + c.utf8Size }

end Position

/-- From where to where a part of a text reaches. -/
structure Span where
  start : Position
  stop : Position
  deriving DecidableEq, Repr, Inhabited

/-- A member of an object in a text: its key and the place after it, the place of the colon, its
value, and the place of what follows the value. -/
structure Entry (α : Type) where
  key : Option String
  keyStop : Position
  colon : Position
  value : α
  next : Position

/-- A value in a text. -/
inductive Located where
  | scalar (span : Span) (value : Option Json)
  | list (span : Span) (items : List Located)
  | object (span : Span) (entries : List (Entry Located))
  deriving Inhabited

namespace Located

def span : Located → Span
  | .scalar span _ => span
  | .list span _ => span
  | .object span _ => span

mutual

/-- The JSON value, if all parts have one and no more than `depth` lists and objects are nested. A
repeated key has its first place and its last value. -/
def strict? (depth : Nat) : Located → Option Json
  | .scalar _ value => value
  | .list _ items =>
    match depth with
    | 0 => none
    | depth + 1 => (strictItems? depth items).map .arr
  | .object _ entries =>
    match depth with
    | 0 => none
    | depth + 1 => (strictEntries? depth [] entries).map .obj

def strictItems? (depth : Nat) : List Located → Option (List Json)
  | [] => some []
  | item :: rest =>
    (strict? depth item).bind fun value => (strictItems? depth rest).map (value :: ·)

/-- The members so far, and after them those of the entries. -/
def strictEntries? (depth : Nat) (members : List (String × Json)) :
    List (Entry Located) → Option (List (String × Json))
  | [] => some members
  | ⟨key, _, _, item, _⟩ :: rest =>
    key.bind fun key => (strict? depth item).bind fun value =>
      strictEntries? depth (Json.setMember key value members) rest

end

end Located

namespace Json

mutual

/-- The value as if it had been read, all at one place. -/
def located : Json → Located
  | .arr items => .list default (locatedItems items)
  | .obj members => .object default (locatedMembers members)
  | value => .scalar default (some value)

def locatedItems : List Json → List Located
  | [] => []
  | item :: rest => located item :: locatedItems rest

def locatedMembers : List (String × Json) → List (Entry Located)
  | [] => []
  | (key, value) :: rest => ⟨key, default, default, located value, default⟩ :: locatedMembers rest

end

end Json

/-- The number of lists and objects that may be nested in a JSON text. -/
def Json.maxNesting : Nat := 127

def Located.toJson? (located : Located) : Option Json :=
  located.strict? Json.maxNesting

end SchemaTypings
