import SchemaTypings.Lowering.Composition

/-!
# Named schemas

The kind of a named schema selects how it is lowered. While it is, its own reference counts as being
resolved, so that references back to it are forward references. Its type name is recorded once it has
succeeded.
-/

namespace SchemaTypings

open Typing

/-- How a named schema is lowered. -/
inductive Operation where
  | enum
  | union
  | compose
  | interface
  | alias
  deriving DecidableEq, Repr

namespace Operation

/-- The operation for a kind of schema. Objects and arrays with composites right below are composed. -/
def ofKind : SchemaKind Schema → Operation
  | .enum _ => .enum
  | .oneOf _ | .anyOf _ => .union
  | .allOf _ => .compose
  | .object shape => if shape.properties.any (·.2.isComposite) then .compose else .interface
  | .array items => if items.isComposite then .compose else .alias
  | .ref _ | .primitive _ | .any => .alias

/-- The operation for a schema. -/
def select (schema : Schema) : Operation :=
  ofKind schema.kind

/-- The name of an operation. -/
def name : Operation → String
  | .enum => "enum"
  | .union => "union"
  | .compose => "compose"
  | .interface => "interface"
  | .alias => "alias"

end Operation

namespace Lowering

open LowerM

/-- The declarations of a schema under a type name, by the operation that its kind selects. -/
def declare (typeName : String) (schema : Schema) : LowerM (List Declaration) :=
  match Operation.select schema with
  | .enum => LoweredEnum.declarations <$> lowerEnum typeName schema
  | .union => LoweredUnion.declarations <$> lowerUnion typeName schema
  | .compose => Composition.declarations <$> compose true typeName schema
  | .interface => declareInterface typeName schema
  | .alias => (fun declaration => [declaration]) <$> lowerAlias typeName schema

/-- The declarations of a named schema. -/
def lowerNamed (entry : NamedSchema) : LowerM (List Declaration) := do
  let typeName := Name.pascal entry.name
  let result ← attempt (withVisited entry.pointer (declare typeName entry.schema))
  match result with
  | .ok declarations =>
    modify (Store.record entry.pointer typeName)
    return declarations
  | .error error =>
    modify (Store.forget entry.pointer)
    throw error

end Lowering

end SchemaTypings
