import SchemaTypings.Json.Writer
import SchemaTypings.Schema.Basic

/-!
# From keywords to schemas

A schema is written with keywords. `Schema.ofKeywords` chooses the kind by the first keyword of
a fixed order that is there, and keeps the rest as data.
-/

namespace SchemaTypings

/-- Descriptions of enumerated values: by position, or by the plain text of the value. -/
inductive EnumDescriptions where
  | byPosition (descriptions : List (Option String))
  | byText (descriptions : List (String × String))

/-- The keywords of one schema, over the type of the schemas within. -/
structure Keywords (α : Type) where
  reference : Option String := none
  types : List String := []
  format : Option String := none
  title : Option String := none
  description : Option String := none
  example? : Option Json := none
  default? : Option Json := none
  nullable : Bool := false
  readOnly : Bool := false
  deprecated : Bool := false
  properties : Option (List (String × α)) := none
  required : List String := []
  additional : Additional α := .unspecified
  items : Option α := none
  values : Option (List Json) := none
  constant : Option Json := none
  oneOf : Option (List α) := none
  anyOf : Option (List α) := none
  allOf : Option (List α) := none
  discriminator : Option Discriminator := none
  minLength : Option Nat := none
  maxLength : Option Nat := none
  minimum : Option Binary64 := none
  maximum : Option Binary64 := none
  pattern : Option String := none
  valueNames : List String := []
  valueDescriptions : Option EnumDescriptions := none
  deprecatedValues : List Json := []

namespace Keywords

variable {α : Type}

/-- Whether null is listed beside other types, which makes the schema nullable. -/
def listsNull (keywords : Keywords α) : Bool :=
  keywords.types.length > 1 && keywords.types.contains "null"

/-- The types the schema has when null is set aside. -/
def ownTypes (keywords : Keywords α) : List String :=
  if keywords.listsNull then keywords.types.filter (· != "null") else keywords.types

def isArray (keywords : Keywords α) : Bool :=
  keywords.ownTypes == ["array"] || keywords.items.isSome

/-- Whether anything is said about properties beyond the declared ones. -/
def saysAdditional (keywords : Keywords α) : Bool :=
  match keywords.additional with
  | .unspecified => false
  | _ => true

def isObject (keywords : Keywords α) : Bool :=
  keywords.ownTypes == ["object"] || keywords.properties.isSome || keywords.saysAdditional

/-- The values that the schema lists: those of an enumeration, or its constant. -/
def listed (keywords : Keywords α) : Option (List Json) :=
  keywords.values <|> keywords.constant.map ([·])

/-- The description of each listed value. -/
def descriptionsOf (keywords : Keywords α) (values : List Json) : List (Option String) :=
  match keywords.valueDescriptions with
  | none => values.map fun _ => none
  | some (.byPosition found) => values.mapIdx fun i _ => (found[i]?).join
  | some (.byText found) => values.map fun value => found.lookup value.plainText

/-- The shape of the enumeration of the listed values. -/
def enumShape (keywords : Keywords α) (values : List Json) : EnumShape where
  values := values
  names := keywords.valueNames
  descriptions := keywords.descriptionsOf values
  deprecated := keywords.deprecatedValues

def objectShape (keywords : Keywords α) : ObjectShape α where
  properties := keywords.properties.getD []
  required := keywords.required
  additional := keywords.additional

def constraints (keywords : Keywords α) : Constraints where
  minLength := keywords.minLength
  maxLength := keywords.maxLength
  minimum := keywords.minimum
  maximum := keywords.maximum
  pattern := keywords.pattern
  format := keywords.format
  allowed := keywords.values

/-- What goes along with the kind. -/
def info (keywords : Keywords α) : SchemaInfo where
  nullable := keywords.nullable || keywords.listsNull
  readOnly := keywords.readOnly
  deprecated := keywords.deprecated
  title := keywords.title
  description := keywords.description
  example? := keywords.example?
  default? := keywords.default?
  format := keywords.format
  discriminator := keywords.discriminator
  constraints := keywords.constraints

/-- The kind by the types alone; several types are a union of primitives that share the format. -/
def kindByTypes (keywords : Keywords Schema) : SchemaKind Schema :=
  match keywords.ownTypes with
  | [] => .any
  | [name] => .primitive (.ofName name)
  | names => .anyOf (names.map fun name =>
      { kind := .primitive (.ofName name), info := { format := keywords.format } })

/-- The kind: a reference goes before everything, then compositions, arrays, objects, enumerations,
and at last the types. -/
def kind (keywords : Keywords Schema) : SchemaKind Schema :=
  match keywords.reference, keywords.oneOf, keywords.anyOf, keywords.allOf with
  | some target, _, _, _ => .ref target
  | none, some members, _, _ => .oneOf members
  | none, none, some members, _ => .anyOf members
  | none, none, none, some members => .allOf members
  | none, none, none, none =>
    if keywords.isArray then .array (keywords.items.getD {})
    else if keywords.isObject then .object keywords.objectShape
    else match keywords.listed with
      | some values => .enum (keywords.enumShape values)
      | none => keywords.kindByTypes

end Keywords

/-- The schema that the keywords describe. -/
def Schema.ofKeywords (keywords : Keywords Schema) : Schema :=
  ⟨keywords.kind, keywords.info⟩

end SchemaTypings
