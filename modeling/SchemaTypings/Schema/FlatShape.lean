import SchemaTypings.Schema.Document

/-!
# Flat shapes

The flat shape of a schema is what it says of properties when references are followed and the members
of `allOf` are taken together. A later member changes the schema of a property but not its place.
-/

namespace SchemaTypings

/-- The properties of an object and the names of those it requires. -/
structure FlatShape where
  properties : List (String × Schema) := []
  required : List String := []

namespace FlatShape

def extend (first second : FlatShape) : FlatShape where
  properties := second.properties.foldl (fun properties (name, schema) =>
    setProperty name schema properties) first.properties
  required := second.required.foldl addName first.required

/-- The flat shape of a schema, if it is an object, with at most `hops` levels of `allOf`. -/
def ofSchema? (document : Document) : Nat → Schema → Option FlatShape
  | 0, _ => none
  | hops + 1, schema =>
    (document.resolveDeep? schema).bind fun resolved =>
      match resolved.kind with
      | .object shape => some ⟨shape.properties, shape.required⟩
      | .allOf members =>
        match members.filterMap (ofSchema? document hops) with
        | [] => none
        | parts => some (parts.foldl extend {})
      | _ => none

/-- The number of levels that a flat shape may have. -/
def maxHops : Nat := 16

/-- Whether a property is an object itself, right away or through one `allOf`. -/
def hasNestedObjects (document : Document) (shape : FlatShape) : Bool :=
  shape.properties.any fun property => (ofSchema? document 2 property.2).isSome

end FlatShape

/-- The flat shape of a schema, if it is an object. -/
def Document.flatten? (document : Document) (schema : Schema) : Option FlatShape :=
  FlatShape.ofSchema? document FlatShape.maxHops schema

end SchemaTypings
