import SchemaTypings.Name.Style
import SchemaTypings.Options.Basic
import SchemaTypings.Typing.DocComment
import SchemaTypings.Typing.Expression
import SchemaTypings.Validation.Rule

/-!
# Properties of object types

A property is written as a signature: `readonly key?: Type`. It is optional unless it is required, and
read-only if it says so or the options make every property so. In an interface its documentation
stands before it.
-/

namespace SchemaTypings.Typing

/-- The type of a schema, with the data that goes along. Nullable is what the schema itself says;
optional is what the object around it says. -/
structure TypeDescriptor where
  typeName : String
  isNullable : Bool := false
  isOptional : Bool := false
  description : Option String := none
  example? : Option Json := none
  constraints : Option Constraints := none

structure Property where
  name : String
  descriptor : TypeDescriptor
  required : Bool
  readonly : Bool
  deprecated : Bool
  rules : List Validation.Rule

/-- The constraints, unless none is set. -/
def someConstraints (constraints : Constraints) : Option Constraints :=
  if constraints.isEmpty then none else some constraints

/-- The descriptor of a schema whose type is known. -/
def TypeDescriptor.ofSchema (typeName : String) (isNullable : Bool) (info : SchemaInfo) :
    TypeDescriptor where
  typeName := typeName
  isNullable := isNullable
  description := info.description
  example? := info.example?
  constraints := someConstraints info.constraints

/-- What an optional property may be besides its type. -/
def absentType : String := "undefined"

namespace Property

/-- The property of a schema whose descriptor is known. Rules are made if the options ask for
validators. -/
def ofDescriptor (options : Options) (name : String) (descriptor : TypeDescriptor)
    (info : SchemaInfo) (required : Bool) : Property where
  name := name
  descriptor := { descriptor with isOptional := !required }
  required := required
  readonly := options.useReadonly || info.readOnly
  deprecated := info.deprecated
  rules :=
    if options.interfaces.generateValidation then
      (descriptor.constraints.map (Validation.rules name)).getD []
    else []

/-- The text of a signature. Optional properties are marked at the key, or in the type. -/
def signatureText (optionalMarkers : Bool) (name type : String) (required readonly : Bool) :
    String :=
  let lead := if readonly then "readonly " else ""
  let key := Name.propertyKey name
  if required then s!"{lead}{key}: {type}"
  else if optionalMarkers then s!"{lead}{key}?: {type}"
  else s!"{lead}{key}: {union [type, absentType]}"

/-- The signature of a property, without documentation and terminator. -/
def signature (options : Options) (property : Property) : String :=
  signatureText options.optionalMarkers property.name property.descriptor.typeName
    property.required property.readonly

def docLines (property : Property) : List String :=
  property.descriptor.description.toList
    ++ (property.descriptor.constraints.map Constraints.docTags).getD []
    ++ (property.descriptor.example?.map fun value => s!"@example {value.compact}").toList
    ++ (if property.deprecated then ["@deprecated"] else [])

/-- A property as a member of an interface. -/
def member (options : Options) (property : Property) : String :=
  let doc := if options.generateComments then docComment property.docLines "  " else ""
  s!"{doc}  {property.signature options};\n"

end Property

/-- The signature that stands for arbitrary keys. -/
def indexSignatureText (value : String) : String :=
  s!"[key: string]: {value}"

/-- The members of an interface: its properties, and the signature for arbitrary keys. -/
def memberLines (options : Options) (properties : List Property) (index : Option String) : String :=
  String.join (properties.map (Property.member options))
    ++ (index.map fun value => s!"  {indexSignatureText value};\n").getD ""

/-- The type of values with arbitrary keys. -/
def mapOf (options : Options) (value : String) : String :=
  match options.objectType with
  | .genericMap => s!"Record<string, {value}>"
  | .indexSignature => s!"\x7b {indexSignatureText value} \x7d"

def arrayOf (options : Options) (element : String) : String :=
  match options.arrayType with
  | .generic => s!"Array<{element}>"
  | .bracket => s!"{parenthesize element}[]"

def nullSuffix (options : Options) : String :=
  match options.nullableType with
  | .null => "null"
  | .undefined => "undefined"
  | .nullAndUndefined => "null | undefined"

/-- The type with null admitted. Without strict null checks every type admits it; one that ends with
it already is left alone. -/
def makeNullable (options : Options) (base : String) : String :=
  let suffix := nullSuffix options
  if !options.strictNullChecks then base
  else if base == "null" || s!"| {suffix}".toList.isSuffixOf base.toList then base
  else s!"{base} | {suffix}"

end SchemaTypings.Typing
