import SchemaTypings.Lowering.Monad
import SchemaTypings.Typing.Property

/-!
# Inline types

The type expression of a schema, by recursion on the schema. What a reference resolves to is a
parameter, so that the recursion stays within the schema; `Lowering.Reference` supplies it.
-/

namespace SchemaTypings.Lowering

open LowerM Typing

/-- What is said of an enumeration without values. -/
def noValuesReason : String := "enum has no values"

/-- What is said of a union without members. -/
def noMembersReason : String := "union has no members"

/-- The segment of the member at a position, counted from one. -/
def memberSegment (index : Nat) : String :=
  (index + 1).repr

/-- The segment of the properties beyond the declared ones. -/
def additionalSegment : String := "additionalProperties"

/-- The type of a primitive. A text with a date format is a date if the options say so. -/
def primitiveType (options : Options) (format : Option String) : Primitive → String
  | .string =>
    if options.dateType == .date && (format == some "date" || format == some "date-time") then "Date"
    else "string"
  | .number | .integer => "number"
  | .boolean => "boolean"
  | .null => "null"
  | .unknown _ => topType

/-- The type of an enumeration: the union of its literals. -/
def enumType (shape : EnumShape) : LowerM String := do
  if shape.values.isEmpty then
    degenerate (← options).enums.emptyEnum noValuesReason
    return bottomType
  else return union (shape.values.map Json.literal)

/-- The signature of a property within an inline object type. -/
def inlineSignature (options : Options) (name type : String) (info : SchemaInfo) (required : Bool) :
    String :=
  Property.signatureText options.optionalMarkers name type required
    (options.useReadonly || info.readOnly)

variable (resolve : String → LowerM String)

mutual

/-- The type of a schema. A reference is what it resolves to, nullable or not; anything else admits
null if it is nullable. -/
def typeOf : Schema → LowerM String
  | ⟨.ref target, _⟩ => resolve target
  | ⟨kind, info⟩ => do
    let base ← typeOfKind info.format kind
    if info.nullable then return makeNullable (← options) base else return base

/-- The type of a kind, whether null is admitted or not. -/
def typeOfKind (format : Option String) : SchemaKind Schema → LowerM String
  | .any => return topType
  | .ref target => resolve target
  | .oneOf members | .anyOf members => do
    if members.isEmpty then
      degenerate (← options).unions.emptyUnion noMembersReason
      return bottomType
    else return union (← typesOfMembers 0 members)
  | .allOf members => do
    if members.isEmpty then return topType
    else return intersection (← typesOfMembers 0 members)
  | .array items => return arrayOf (← options) (← typeOf items)
  | .object ⟨properties, required, additional⟩ => do
    let index ← indexValue properties.isEmpty additional
    if properties.isEmpty then return mapOf (← options) (index.getD topType)
    else
      let signatures ← signaturesOf required properties
      let members := String.intercalate "; " (signatures ++ (index.map indexSignatureText).toList)
      return s!"\x7b {members} \x7d"
  | .enum shape => enumType shape
  | .primitive type => return primitiveType (← options) format type

/-- The types of the members of a composite, from position `index` on. -/
def typesOfMembers (index : Nat) : List Schema → LowerM (List String)
  | [] => return []
  | member :: rest => do
    let type ← descend (memberSegment index) (typeOf member)
    return type :: (← typesOfMembers (index + 1) rest)

/-- The type of the values under arbitrary keys. An object that declares no properties has them
unless it is closed. -/
def indexValue (propertyless : Bool) : Additional Schema → LowerM (Option String)
  | .opened => return some topType
  | .schema value => some <$> withSegment additionalSegment (typeOf value)
  | .closed => return if propertyless then some bottomType else none
  | .unspecified => return if propertyless then some topType else none

/-- The signatures of the properties of an inline object type. -/
def signaturesOf (required : List String) : List (String × Schema) → LowerM (List String)
  | [] => return []
  | (name, schema) :: rest => do
    let type ← withSegment name (typeOf schema)
    let signature := inlineSignature (← options) name type schema.info (required.contains name)
    return signature :: (← signaturesOf required rest)

end

end SchemaTypings.Lowering
