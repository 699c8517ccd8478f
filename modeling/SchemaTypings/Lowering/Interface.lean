import SchemaTypings.Lowering.Reference
import SchemaTypings.Validation.Validator

/-!
# Objects as interfaces

A named object is declared as an interface, or, if it declares no properties and the options write
such types so, as an alias of a record type.
-/

namespace SchemaTypings

open Typing

/-- The result of lowering an object. -/
structure LoweredInterface where
  name : String
  properties : List Property
  indexSignature : Option String
  declaration : Declaration

namespace LoweredInterface

def declarations (result : LoweredInterface) : List Declaration :=
  [result.declaration]

def hasRules (result : LoweredInterface) : Bool :=
  result.properties.any fun property => !property.rules.isEmpty

/-- The validator of the interface, if it has rules. -/
def validator? (options : Options) (result : LoweredInterface) : Option Declaration :=
  Validation.validator? options.exportWord result.name result.properties

end LoweredInterface

namespace Lowering

open LowerM

/-- The shape of an object; another schema has no properties. -/
def objectShapeOf (schema : Schema) : ObjectShape Schema :=
  schema.objectShape?.getD {}

/-- A property of an object. -/
def lowerProperty (shape : ObjectShape Schema) (name : String) (schema : Schema) :
    LowerM Property := do
  let descriptor ← withSegment name (describe schema)
  return .ofDescriptor (← options) name descriptor schema.info (shape.requires name)

/-- The type of the values that an object holds beyond its properties. -/
def lowerIndex (shape : ObjectShape Schema) : LowerM (Option String) :=
  indexValue referenceName shape.properties.isEmpty shape.additional

/-- The properties of an object, and the type of the values beyond them. -/
def lowerShape (shape : ObjectShape Schema) : LowerM (List Property × Option String) := do
  let properties ← shape.properties.mapM fun (name, schema) => lowerProperty shape name schema
  return (properties, ← lowerIndex shape)

/-- The type of an object, written inline. -/
def objectLiteral (shape : ObjectShape Schema) : LowerM String :=
  typeOfKind referenceName none (.object shape)

/-- The documentation of a type: its description, and whether it is deprecated. -/
def typeDoc (options : Options) (info : SchemaInfo) : List String :=
  if options.generateComments then
    info.description.toList ++ (if info.deprecated then ["@deprecated"] else [])
  else []

/-- The documentation of an interface, which begins with a title other than the name. -/
def interfaceDoc (options : Options) (name : String) (info : SchemaInfo) : List String :=
  if options.generateComments then
    (info.title.filter (· != name)).toList ++ typeDoc options info
  else []

/-- The declaration of an object with the given members. -/
def interfaceDeclaration (options : Options) (name : String) (info : SchemaInfo)
    (properties : List Property) (index : Option String) (dependencies : List String) :
    Declaration :=
  let header := docComment (interfaceDoc options name info) "" ++ options.exportWord
  if properties.isEmpty && options.objectType == .genericMap then
    { name
      kind := .typeAlias
      content := s!"{header}type {name} = Record<string, {index.getD topType}>;"
      dependencies }
  else
    { name
      kind := .interface
      content := s!"{header}interface {name} \x7b\n{memberLines options properties index}\x7d"
      dependencies }

/-- An object, declared under the type name made of `name`. -/
def lowerInterface (name : String) (schema : Schema) : LowerM LoweredInterface := do
  let typeName := Name.pascal name
  let ((properties, index), dependencies) ←
    withSegment typeName (collectDependencies (lowerShape (objectShapeOf schema)))
  let declaration := interfaceDeclaration (← options) typeName schema.info properties index
    (dependencies.filter (· != typeName))
  return ⟨typeName, properties, index, declaration⟩

/-- An object as declarations: its interface and its validator. -/
def declareInterface (name : String) (schema : Schema) : LowerM (List Declaration) := do
  let result ← lowerInterface name schema
  return result.declarations ++ (result.validator? (← options)).toList

/-- The documentation of an alias: description, constraints, and deprecation. -/
def aliasDoc (options : Options) (descriptor : TypeDescriptor) (info : SchemaInfo) : List String :=
  if options.generateComments then
    info.description.toList ++ (descriptor.constraints.map Constraints.docTags).getD []
      ++ (if info.deprecated then ["@deprecated"] else [])
  else []

/-- A schema, declared as an alias of its type under the type name made of `name`. -/
def lowerAlias (name : String) (schema : Schema) : LowerM Declaration := do
  let typeName := Name.pascal name
  let (descriptor, dependencies) ← withSegment typeName (collectDependencies (describe schema))
  let options ← options
  let doc := docComment (aliasDoc options descriptor schema.info) ""
  return {
    name := typeName
    kind := .typeAlias
    content := s!"{doc}{options.exportWord}type {typeName} = {descriptor.typeName};"
    dependencies := dependencies.filter (· != typeName) }

end Lowering

end SchemaTypings
