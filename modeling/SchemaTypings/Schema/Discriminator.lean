import SchemaTypings.Schema.Document

/-!
# Discriminators

A discriminator is a property whose value tells the members of a union apart. One that the schema gives
decides; otherwise it is the first property of the first member that has a single value in every
member, no two of them equal.
-/

namespace SchemaTypings

/-- A discriminator with the value of each member, in order, where one is known. -/
structure ResolvedDiscriminator where
  property : String
  values : List (Option Json)

namespace Discriminator

/-- The shape of a member that is an object, by itself or at the end of a chain of references. -/
def memberShape? (document : Document) (member : Schema) : Option (ObjectShape Schema) :=
  (document.resolveDeep? member).bind Schema.objectShape?

/-- The single value of a property. -/
def pinned? (document : Document) (shape : ObjectShape Schema) (property : String) : Option Json :=
  ((shape.property? property).bind document.resolveDeep?).bind Schema.singleValue?

/-- Whether a mapping entry is about a reference: its target is that reference, or has its name. -/
def maps (reference target : String) : Bool :=
  target == reference || Name.ofReference target == Name.ofReference reference

/-- The value that the mapping gives to a member. -/
def mappedValue? (discriminator : Discriminator) (member : Schema) : Option Json :=
  match member.kind with
  | .ref reference =>
    (discriminator.mapping.find? fun entry => maps reference entry.2).map fun entry => .str entry.1
  | _ => none

/-- The value that a reference without any other one has: its last key. -/
def nominalValue? (member : Schema) : Option Json :=
  match member.kind with
  | .ref reference => some (.str (Pointer.lastKey reference))
  | _ => none

/-- The value of a member: the mapped one, else the single value of the property, else the key of the
reference. -/
def valueOf? (document : Document) (discriminator : Discriminator) (member : Schema) :
    Option Json :=
  discriminator.mappedValue? member
    <|> (memberShape? document member).bind (pinned? document · discriminator.propertyName)
    <|> nominalValue? member

/-- A discriminator that the schema gives, with the values of the members. -/
def explicit (document : Document) (discriminator : Discriminator) (members : List Schema) :
    ResolvedDiscriminator :=
  ⟨discriminator.propertyName, members.map (valueOf? document discriminator)⟩

/-- The values of a property in the shapes, after the values `seen`; none if a shape has no single
value, or one that was seen, or, if that is strict, does not require the property. -/
def distinctValues? (document : Document) (strict : Bool) (property : String) (seen : List Json) :
    List (ObjectShape Schema) → Option (List Json)
  | [] => some seen
  | shape :: rest =>
    if strict && !shape.requires property then none
    else match pinned? document shape property with
      | none => none
      | some value =>
        if value.isIn seen then none
        else distinctValues? document strict property (seen ++ [value]) rest

/-- The first of the properties that tells the shapes apart. -/
def firstCandidate? (document : Document) (strict : Bool) (shapes : List (ObjectShape Schema))
    (properties : List String) : Option ResolvedDiscriminator :=
  properties.findSome? fun property =>
    (distinctValues? document strict property [] shapes).map fun values =>
      ⟨property, values.map some⟩

/-- The discriminator that the members have without being given one. -/
def infer? (document : Document) (members : List Schema) (strict : Bool) :
    Option ResolvedDiscriminator :=
  if members.length < 2 then none
  else do
    let shapes ← members.mapM (memberShape? document)
    let first ← shapes.head?
    firstCandidate? document strict shapes (first.properties.map (·.1))

end Discriminator

end SchemaTypings
