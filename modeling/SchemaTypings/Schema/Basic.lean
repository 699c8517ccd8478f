import SchemaTypings.Json.Basic

/-!
# Schemas

A schema is a kind, which decides the type, and data that goes along with every kind. The kind is
chosen once, when the schema is read; every later stage goes by it.
-/

namespace SchemaTypings

/-- Constraints on values. They show in documentation and validators and never change a type. -/
structure Constraints where
  minLength : Option Nat := none
  maxLength : Option Nat := none
  minimum : Option Binary64 := none
  maximum : Option Binary64 := none
  pattern : Option String := none
  format : Option String := none
  allowed : Option (List Json) := none
  deriving Inhabited

def Constraints.isEmpty (c : Constraints) : Bool :=
  c.minLength.isNone && c.maxLength.isNone && c.minimum.isNone && c.maximum.isNone
    && c.pattern.isNone && c.format.isNone && c.allowed.isNone

/-- The types that stand for themselves; an unknown one has the top type. -/
inductive Primitive where
  | string
  | number
  | integer
  | boolean
  | null
  | unknown (name : String)
  deriving DecidableEq, Repr

/-- The primitive type with the given name. -/
def Primitive.ofName (name : String) : Primitive :=
  match name with
  | "string" => .string
  | "number" => .number
  | "integer" => .integer
  | "boolean" => .boolean
  | "null" => .null
  | other => .unknown other

/-- The properties of an object beyond those it declares. -/
inductive Additional (α : Type) where
  | unspecified
  | opened
  | closed
  | schema (value : α)

/-- The shape of an object: its properties in order, the names of those it requires, and what holds
for the others. -/
structure ObjectShape (α : Type) where
  properties : List (String × α) := []
  required : List String := []
  additional : Additional α := .unspecified

namespace ObjectShape

variable {α : Type}

def requires (shape : ObjectShape α) (property : String) : Bool :=
  shape.required.contains property

def property? (shape : ObjectShape α) (name : String) : Option α :=
  shape.properties.lookup name

end ObjectShape

/-- The properties with the schema under the name: in its place if it is there, else at the end. -/
def setProperty {α : Type} (name : String) (schema : α) : List (String × α) → List (String × α)
  | [] => [(name, schema)]
  | (key, old) :: rest =>
    if key == name then (key, schema) :: rest else (key, old) :: setProperty name schema rest

/-- The names with one more, unless it is there. -/
def addName (names : List String) (name : String) : List String :=
  if names.contains name then names else names ++ [name]

/-- The shape of an enumeration: its values, and what is said about the value at each position. -/
structure EnumShape where
  values : List Json := []
  names : List String := []
  descriptions : List (Option String) := []
  deprecated : List Json := []
  deriving Inhabited

/-- The property that tells the members of a union apart, and the values it has for references. -/
structure Discriminator where
  propertyName : String := ""
  mapping : List (String × String) := []
  deriving DecidableEq, Repr, Inhabited

/-- What goes along with every kind of schema. -/
structure SchemaInfo where
  nullable : Bool := false
  readOnly : Bool := false
  deprecated : Bool := false
  title : Option String := none
  description : Option String := none
  example? : Option Json := none
  default? : Option Json := none
  format : Option String := none
  discriminator : Option Discriminator := none
  constraints : Constraints := {}
  deriving Inhabited

/-- The kinds of schema, over the type of the schemas within. -/
inductive SchemaKind (α : Type) where
  /-- Nothing is known. -/
  | any
  /-- Another schema, by reference. -/
  | ref (target : String)
  | oneOf (members : List α)
  | anyOf (members : List α)
  | allOf (members : List α)
  | array (items : α)
  | object (shape : ObjectShape α)
  | enum (shape : EnumShape)
  | primitive (type : Primitive)

structure Schema where
  kind : SchemaKind Schema := .any
  info : SchemaInfo := {}

instance : Inhabited Schema := ⟨{}⟩

namespace Schema

def isObject (schema : Schema) : Bool :=
  match schema.kind with
  | .object _ => true
  | _ => false

/-- Whether the schema is made of others: `oneOf`, `anyOf` or `allOf`. -/
def isComposite (schema : Schema) : Bool :=
  match schema.kind with
  | .oneOf _ | .anyOf _ | .allOf _ => true
  | _ => false

/-- The shape of an object. -/
def objectShape? (schema : Schema) : Option (ObjectShape Schema) :=
  match schema.kind with
  | .object shape => some shape
  | _ => none

/-- The only value of the schema: a constant, or that of an enumeration with one value. -/
def singleValue? (schema : Schema) : Option Json :=
  match schema.kind with
  | .enum { values := [value], .. } => some value
  | _ => none

/-- A measure of size: one, one more for each property, and two more for composites right below. -/
def complexity (schema : Schema) : Nat :=
  let (properties, nested) := match schema.kind with
    | .object shape => (shape.properties.length, shape.properties.any (·.2.isComposite))
    | .oneOf members | .anyOf members | .allOf members => (0, members.any isComposite)
    | .array items => (0, items.isComposite)
    | _ => (0, false)
  1 + properties + if nested then 2 else 0

end Schema

end SchemaTypings
