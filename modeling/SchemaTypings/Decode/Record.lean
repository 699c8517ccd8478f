import SchemaTypings.Decode.Error

/-!
# Decoding records

A record is decoded from an object, whose unknown keys are passed over, or from a list that holds its
fields in order; fields that are not given keep their defaults. An enumerated field is decoded from
its spelling, or from an object with the spelling as its only key and null under it. Errors about
values from a text carry the place up to which the text had been read.
-/

namespace SchemaTypings.Decode

/-- Where a value comes from: it was a value before, or it is being read from a text. -/
inductive Origin where
  | value
  | text
  deriving DecidableEq, Repr

/-- A failure for the cause, at a place if there is a text. -/
def failAt {α : Type} (origin : Origin) (place : Position) (cause : Cause) : Except Error α :=
  match origin with
  | .value => .error { cause }
  | .text => .error { cause, place := some place }

/-- A failure because the value is of another kind. Lists and objects are not read any further. -/
def failKind {α : Type} (origin : Origin) (value : Located) (wanted : Wanted) : Except Error α :=
  match value with
  | .scalar span (some found) => failAt origin span.stop (.wrongKind (.ofJson found) wanted)
  | .scalar span none => failAt origin span.stop .noValue
  | .list span _ => failAt origin span.start (.wrongKind .list wanted)
  | .object span _ => failAt origin span.start (.wrongKind .object wanted)

def boolean (origin : Origin) (value : Located) : Except Error Bool :=
  match value with
  | .scalar _ (some (.bool b)) => .ok b
  | _ => failKind origin value .boolean

def text (origin : Origin) (value : Located) : Except Error String :=
  match value with
  | .scalar _ (some (.str s)) => .ok s
  | _ => failKind origin value .text

/-- A whole number that is not negative. -/
def size (origin : Origin) (value : Located) : Except Error Nat :=
  match value with
  | .scalar span (some (.int n)) =>
    if n < 0 then failAt origin span.stop (.outOfRange n .size) else .ok n.toNat
  | _ => failKind origin value .size

def nothing (origin : Origin) (value : Located) : Except Error Unit :=
  match value with
  | .scalar _ (some .null) => .ok ()
  | _ => failKind origin value .nothing

/-- The value that a spelling stands for. -/
def spelled {α : Type} (origin : Origin) (table : List (String × α)) (place : Position)
    (given : String) : Except Error α :=
  match table.lookup given with
  | some found => .ok found
  | none => failAt origin place (.unknownSpelling given (table.map (·.1)))

/-- An enumerated value in the form of an object. -/
def spelledByKey {α : Type} (origin : Origin) (table : List (String × α)) (span : Span)
    (entries : List (Entry Located)) : Except Error α :=
  match origin, entries with
  | .value, [entry] | .text, entry :: _ => do
    let some key := entry.key | failAt origin entry.keyStop .noValue
    let found ← spelled origin table entry.keyStop key
    within (.key key) (nothing origin entry.value)
    if entries.length > 1 then failAt origin entry.next .noValue else return found
  | .value, _ => fail .notOneKey
  | .text, [] => failAt origin span.stop .noValue

/-- An enumerated value. -/
def spelling {α : Type} (table : List (String × α)) (origin : Origin) (value : Located) :
    Except Error α :=
  match value with
  | .scalar span (some (.str given)) => spelled origin table span.stop given
  | .object span entries => spelledByKey origin table span entries
  | _ =>
    match origin with
    | .value => failKind origin value .spelling
    | .text => failAt origin value.span.start.next .noValue

/-- A field of a record: its key, and how a value for it changes the record. -/
structure Field (ρ : Type) where
  name : String
  read : Origin → Located → ρ → Except Error ρ

/-- The record after the entries, `seen` being the fields that were given before. -/
def readEntries {ρ : Type} (origin : Origin) (fields : List (Field ρ)) :
    List String → ρ → List (Entry Located) → Except Error ρ
  | _, record, [] => .ok record
  | seen, record, entry :: rest => do
    let some key := entry.key | failAt origin entry.keyStop .noValue
    match fields.find? (·.name == key) with
    | none => readEntries origin fields seen record rest
    | some field =>
      if seen.contains key then failAt origin entry.colon (.repeatedField key)
      else
        let record ← within (.key key) (field.read origin entry.value record)
        readEntries origin fields (key :: seen) record rest

/-- The record after the items, which belong to the fields from the one at `index` on; `count` is
the number of items of the whole list. -/
def readItems {ρ : Type} (origin : Origin) (count : Nat) :
    Nat → List (Field ρ) → ρ → List Located → Except Error ρ
  | _, _, record, [] => .ok record
  | _, [], _, item :: _ =>
    match origin with
    | .value => fail (.tooManyItems count)
    | .text => failAt origin item.span.start.next .trailingText
  | index, field :: fields, record, item :: rest => do
    let record ← within (.index index) (field.read origin item record)
    readItems origin count (index + 1) fields record rest

/-- A record with the given fields, starting from its defaults. -/
def record {ρ : Type} (name : String) (fields : List (Field ρ)) (defaults : ρ) (origin : Origin)
    (value : Located) : Except Error ρ :=
  match value with
  | .object _ entries => readEntries origin fields [] defaults entries
  | .list _ items => readItems origin items.length 0 fields defaults items
  | .scalar _ _ => failKind origin value (.record name)

end SchemaTypings.Decode
