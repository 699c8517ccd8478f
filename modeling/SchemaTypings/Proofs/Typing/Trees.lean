import SchemaTypings.Lowering.Inline
import SchemaTypings.Proofs.Typing.Values

/-!
# Type expressions as trees

A type expression is text. `TypeTree` is what the text says: how it is written is `WrittenAs`, which values
it has is `Holds`. References stand under names in the text and are read as what they refer to, which is a
parameter. `Lowering.typeTree` is the tree of the inline type of a schema.
-/

namespace SchemaTypings

namespace Typing

/-- A property of an object type. One that is not required may be absent. -/
structure FieldTree (α : Type) where
  name : String
  required : Bool
  readonly : Bool
  type : α

/-- A type expression. A type that is declared under a name of its own stands with the name, and a
nullable one as the type that is made nullable. -/
inductive TypeTree where
  | unknown
  | never
  | undefined
  | null
  | boolean
  | number
  | string
  | date
  | literal (value : Json)
  | reference (target : String)
  | declared (name : String) (type : TypeTree)
  | array (items : TypeTree)
  | object (fields : List (FieldTree TypeTree)) (index : Option TypeTree)
  | union (parts : List TypeTree)
  | intersection (parts : List TypeTree)
  | nullable (type : TypeTree)

/-- The signature of a property whose type is written as `text`. -/
def FieldTree.signature (field : FieldTree TypeTree) (text : String) : String :=
  Property.signatureText true field.name text field.required field.readonly

/-- The inline object type with the members. -/
def objectText (members : List String) : String :=
  let joined := String.intercalate "; " members
  s!"\x7b {joined} \x7d"

/-- What a nullable type spells out beside its base. -/
def alternatives (options : Options) : List Value :=
  if options.strictNullChecks then
    match options.nullableType with
    | .null => [.null]
    | .undefined => [.undefined]
    | .nullAndUndefined => [.null, .undefined]
  else []

theorem eq_of_mem_alternatives {options : Options} {value : Value} (h : value ∈ alternatives options) :
    value = .null ∨ value = .undefined := by
  unfold alternatives at h
  split at h
  · split at h
    · exact Or.inl (List.mem_singleton.mp h)
    · exact Or.inr (List.mem_singleton.mp h)
    · simpa using h
  · cases h

namespace TypeTree

/-- The type is written as the text. `names` are the names that a reference may stand under. -/
inductive WrittenAs (options : Options) (names : String → String → Prop) : TypeTree → String → Prop
  | unknown : WrittenAs options names .unknown topType
  | never : WrittenAs options names .never bottomType
  | undefined : WrittenAs options names .undefined absentType
  | null : WrittenAs options names .null "null"
  | boolean : WrittenAs options names .boolean "boolean"
  | number : WrittenAs options names .number "number"
  | string : WrittenAs options names .string "string"
  | date : WrittenAs options names .date "Date"
  | literal (value : Json) : WrittenAs options names (.literal value) value.literal
  | reference {target name : String} (h : names target name) :
    WrittenAs options names (.reference target) name
  | declared (name : String) (type : TypeTree) : WrittenAs options names (.declared name type) name
  | array {items : TypeTree} {text : String} (h : WrittenAs options names items text) :
    WrittenAs options names (.array items) (arrayOf options text)
  | map {index : TypeTree} {text : String} (h : WrittenAs options names index text) :
    WrittenAs options names (.object [] (some index)) (mapOf options text)
  | closed {fields : List (FieldTree TypeTree)} {texts : List String} (hfields : fields ≠ [])
    (h : List.Forall₂ (WrittenAs options names) (fields.map (·.type)) texts) :
    WrittenAs options names (.object fields none)
      (objectText (List.zipWith FieldTree.signature fields texts))
  | opened {fields : List (FieldTree TypeTree)} {texts : List String} {index : TypeTree} {text : String}
    (hfields : fields ≠ [])
    (h : List.Forall₂ (WrittenAs options names) (fields.map (·.type)) texts)
    (hindex : WrittenAs options names index text) :
    WrittenAs options names (.object fields (some index))
      (objectText (List.zipWith FieldTree.signature fields texts ++ [indexSignatureText text]))
  | union {parts : List TypeTree} {texts : List String}
    (h : List.Forall₂ (WrittenAs options names) parts texts) :
    WrittenAs options names (.union parts) (Typing.union texts)
  | intersection {parts : List TypeTree} {texts : List String}
    (h : List.Forall₂ (WrittenAs options names) parts texts) :
    WrittenAs options names (.intersection parts) (Typing.intersection texts)
  | nullable {type : TypeTree} {text : String} (h : WrittenAs options names type text) :
    WrittenAs options names (.nullable type) (makeNullable options text)

/-- The value is one of the type. `reading` says which values a reference stands for. -/
inductive Holds (options : Options) (reading : String → Value → Prop) : TypeTree → Value → Prop
  | unknown (value : Value) : Holds options reading .unknown value
  | undefined : Holds options reading .undefined .undefined
  | null : Holds options reading .null .null
  | boolean (value : Bool) : Holds options reading .boolean (.bool value)
  | number (value : Numeral) : Holds options reading .number (.number value)
  | string (value : String) : Holds options reading .string (.string value)
  | date (time : Int) : Holds options reading .date (.date time)
  | literal {literal : Json} {value : Value} (h : value.Fits literal) :
    Holds options reading (.literal literal) value
  | reference {target : String} {value : Value} (h : reading target value) :
    Holds options reading (.reference target) value
  | declared {name : String} {type : TypeTree} {value : Value} (h : Holds options reading type value) :
    Holds options reading (.declared name type) value
  | array {items : TypeTree} {values : List Value}
    (h : ∀ value ∈ values, Holds options reading items value) :
    Holds options reading (.array items) (.array values)
  | object {fields : List (FieldTree TypeTree)} {index : Option TypeTree}
    {properties : List (String × Value)}
    (hrequired : ∀ field ∈ fields, field.required = true → (properties.lookup field.name).isSome)
    (hfields : ∀ field ∈ fields, ∀ value, properties.lookup field.name = some value →
      field.required = true ∨ value ≠ .undefined → Holds options reading field.type value)
    (hothers : ∀ type, index = some type → ∀ property ∈ properties,
      property.1 ∉ fields.map (·.name) → Holds options reading type property.2) :
    Holds options reading (.object fields index) (.object properties)
  | union {parts : List TypeTree} {part : TypeTree} {value : Value} (hpart : part ∈ parts)
    (h : Holds options reading part value) : Holds options reading (.union parts) value
  | intersection {parts : List TypeTree} {value : Value}
    (h : ∀ part ∈ parts, Holds options reading part value) :
    Holds options reading (.intersection parts) value
  | base {type : TypeTree} {value : Value} (h : Holds options reading type value) :
    Holds options reading (.nullable type) value
  | alternative {type : TypeTree} {value : Value} (h : value ∈ alternatives options) :
    Holds options reading (.nullable type) value

variable {options : Options} {reading : String → Value → Prop} {value : Value}

theorem holds_nullable {type : TypeTree} : (nullable type).Holds options reading value ↔
    type.Holds options reading value ∨ value ∈ alternatives options := by
  constructor
  · rintro (_ | _)
    · exact Or.inl ‹_›
    · exact Or.inr ‹_›
  · rintro (h | h)
    · exact .base h
    · exact .alternative h

theorem holds_union {parts : List TypeTree} : (union parts).Holds options reading value ↔
    ∃ part ∈ parts, part.Holds options reading value := by
  constructor
  · rintro (_ | _)
    exact ⟨_, ‹_›, ‹_›⟩
  · rintro ⟨part, hpart, h⟩
    exact .union hpart h

/-- The required property of a value of an object type has the type that it should. -/
theorem holds_property {fields : List (FieldTree TypeTree)} {index : Option TypeTree}
    {field : FieldTree TypeTree} (h : (object fields index).Holds options reading value)
    (hfield : field ∈ fields) (hrequired : field.required = true) :
    value.has field.name = true ∧ field.type.Holds options reading (value.property field.name) := by
  cases h with
  | object hhas hfields hothers =>
    refine ⟨hhas field hfield hrequired, ?_⟩
    obtain ⟨found, hfound⟩ := Option.isSome_iff_exists.mp (hhas field hfield hrequired)
    rw [Value.property_eq_of_lookup hfound]
    exact hfields field hfield found hfound (Or.inl hrequired)

end TypeTree

end Typing

/-! ## Types of schemas -/

namespace Lowering

open Typing

/-- The type of a primitive. -/
def primitiveTree (options : Options) (format : Option String) : Primitive → TypeTree
  | .string =>
    if options.dateType == .date && (format == some "date" || format == some "date-time") then .date
    else .string
  | .number | .integer => .number
  | .boolean => .boolean
  | .null => .null
  | .unknown _ => .unknown

/-- A property with the type of its schema. Without markers at the keys, one that is not required must be
there and may be `undefined`. -/
def fieldOf (options : Options) (required : Bool) (name : String) (info : SchemaInfo)
    (type : TypeTree) : FieldTree TypeTree :=
  let readonly := options.useReadonly || info.readOnly
  if required then ⟨name, true, readonly, type⟩
  else if options.optionalMarkers then ⟨name, false, readonly, type⟩
  else ⟨name, true, readonly, .union [type, .undefined]⟩

variable (options : Options)

mutual

/-- The type of a schema. -/
def typeTree : Schema → TypeTree
  | ⟨.ref target, _⟩ => .reference target
  | ⟨kind, info⟩ =>
    let base := kindTree info.format kind
    if info.nullable then .nullable base else base

/-- The type of a kind, whether null is admitted or not. -/
def kindTree (format : Option String) : SchemaKind Schema → TypeTree
  | .any => .unknown
  | .ref target => .reference target
  | .oneOf members | .anyOf members =>
    if members.isEmpty then .never else .union (memberTrees members)
  | .allOf members => if members.isEmpty then .unknown else .intersection (memberTrees members)
  | .array items => .array (typeTree items)
  | .object ⟨properties, required, additional⟩ =>
    .object (fieldTrees required properties) (indexTree properties.isEmpty additional)
  | .enum shape => if shape.values.isEmpty then .never else .union (shape.values.map .literal)
  | .primitive type => primitiveTree options format type

/-- The types of the members of a composite. -/
def memberTrees : List Schema → List TypeTree
  | [] => []
  | member :: rest => typeTree member :: memberTrees rest

/-- The type of the values under arbitrary keys. -/
def indexTree (propertyless : Bool) : Additional Schema → Option TypeTree
  | .opened => some .unknown
  | .schema value => some (typeTree value)
  | .closed => if propertyless then some .never else none
  | .unspecified => if propertyless then some .unknown else none

/-- The properties of an object type. -/
def fieldTrees (required : List String) : List (String × Schema) → List (FieldTree TypeTree)
  | [] => []
  | (name, schema) :: rest =>
    fieldOf options (required.contains name) name schema.info (typeTree schema)
      :: fieldTrees required rest

end

/-- The type of an object, which is never nullable as an interface. -/
def shapeTree (shape : ObjectShape Schema) : TypeTree :=
  kindTree options none (.object shape)

variable {options : Options}

theorem fieldTrees_eq_map (required : List String) (properties : List (String × Schema)) :
    fieldTrees options required properties = properties.map fun property =>
      fieldOf options (required.contains property.1) property.1 property.2.info
        (typeTree options property.2) := by
  induction properties with
  | nil => rfl
  | cons property rest ih => rw [fieldTrees, ih, List.map_cons]

theorem shapeTree_eq (shape : ObjectShape Schema) : shapeTree options shape =
    .object (fieldTrees options shape.required shape.properties)
      (indexTree options shape.properties.isEmpty shape.additional) := by
  rw [shapeTree, kindTree]

end Lowering

end SchemaTypings
