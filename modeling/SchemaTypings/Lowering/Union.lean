import SchemaTypings.Lowering.Enum
import SchemaTypings.Lowering.Interface
import SchemaTypings.Lowering.UnionDispatch
import SchemaTypings.Schema.FlatShape

/-!
# Unions

A union is declared as an alias of the union of its members. A member that is a reference stands under
its name; others stand inline or are declared on their own. Where a discriminator is known, object
members are interfaces of their own in which it is pinned to the value of the member.
-/

namespace SchemaTypings

open Typing

/-- The result of lowering a union. -/
structure LoweredUnion where
  name : String
  discriminator : Option String := none
  members : List UnionMember := []
  declaration : Declaration
  memberDeclarations : List Declaration := []
  functions : List Declaration := []

/-- All declarations, in order. -/
def LoweredUnion.declarations (result : LoweredUnion) : List Declaration :=
  result.memberDeclarations ++ result.declaration :: result.functions

/-- The schema that holds a single value. -/
def Schema.constant (value : Json) : Schema :=
  { kind := .enum { values := [value] } }

/-- The shape in which a property is required and has a single value. -/
def ObjectShape.pin (shape : ObjectShape Schema) (property : String) (value : Json) :
    ObjectShape Schema :=
  { shape with
    properties := setProperty property (.constant value) shape.properties
    required := addName shape.required property }

namespace Lowering

open LowerM

/-- The members of a union; another schema has none. -/
def unionMembersOf (schema : Schema) : List Schema :=
  match schema.kind with
  | .oneOf members | .anyOf members => members
  | _ => []

/-- Whether the discriminator of a union is looked for if none is given. -/
def infersDiscriminator (options : Options) (schema : Schema) : Bool :=
  options.discriminatedUnions && match schema.kind with
    | .anyOf _ => options.unions.preferDiscriminatedUnions
    | _ => true

/-- The discriminator of a union: the one it gives, else one that is inferred. -/
def discriminatorOf? (document : Document) (options : Options) (schema : Schema) :
    Option ResolvedDiscriminator :=
  let members := unionMembersOf schema
  match schema.info.discriminator with
  | some given => some (given.explicit document members)
  | none =>
    if infersDiscriminator options schema then
      Discriminator.infer? document members options.unions.strictDiscrimination
    else none

/-- Whether a schema stands inline: it is no object and no composite, or it is small and the options
say so. -/
def isInline (options : Options) (schema : Schema) : Bool :=
  !(schema.isObject || schema.isComposite)
    || (options.inlineUnions && schema.complexity ≤ options.maxInlineComplexity)

/-- The name for the member at a position. -/
def memberName (union : String) (index : Nat) : String :=
  s!"{union}Member{index + 1}"

/-- A member that is a reference. -/
def referenceMember (target : String) (value : Option Json) (member : Schema) :
    LowerM (UnionMember × List Declaration) := do
  let name ← referenceName target
  return (⟨name, value, member, false, name⟩, [])

/-- A member that stands inline. -/
def inlineMember (tag : String) (value : Option Json) (member : Schema) :
    LowerM (UnionMember × List Declaration) := do
  let type ← typeExpression member
  return (⟨type, value, member, true, tag⟩, [])

/-- The name for a member by its value, or by its position. -/
def valueMemberName (union : String) (index : Nat) (value : Option Json) : String :=
  match value with
  | some value => s!"{union}{Name.pascal value.plainText}"
  | none => memberName union index

/-- The member at a position of a union with a discriminator. -/
def discriminatedMember (union property : String) (index : Nat) (value : Option Json)
    (member : Schema) : LowerM (UnionMember × List Declaration) := do
  match member.kind with
  | .ref target => referenceMember target value member
  | .object shape =>
    let name ← claimName (valueMemberName union index value)
    let pinned := (value.map (shape.pin property)).getD shape
    let declarations ← declareInterface name ⟨.object pinned, member.info⟩
    return (⟨name, value, member, false, name⟩, declarations)
  | _ => inlineMember (memberName union index) value member

/-- The member at a position of a union without a discriminator. -/
def plainMember (union : String) (index : Nat) (member : Schema) :
    LowerM (UnionMember × List Declaration) := do
  match member.kind with
  | .ref target => referenceMember target none member
  | _ =>
    let tag := memberName union index
    if isInline (← options) member then inlineMember tag none member
    else
      let name ← claimName tag
      let declarations ←
        if member.isObject then declareInterface name member
        else (fun declaration => [declaration]) <$> lowerAlias name member
      return (⟨name, none, member, false, name⟩, declarations)

/-- The member at a position of a union. -/
def lowerMember (union : String) (discriminator : Option ResolvedDiscriminator) (index : Nat)
    (member : Schema) : LowerM (UnionMember × List Declaration) :=
  descend (memberSegment index) <| match discriminator with
    | some found => discriminatedMember union found.property index (found.values[index]?).join member
    | none => plainMember union index member

/-- The members of a union, with the declarations of their own. -/
def lowerMembers (union : String) (discriminator : Option ResolvedDiscriminator)
    (members : List Schema) : LowerM (List UnionMember × List Declaration) := do
  let lowered ← members.zipIdx.mapM fun (member, index) =>
    lowerMember union discriminator index member
  return (lowered.map (·.1), lowered.flatMap (·.2))

/-- The alias that declares a union. -/
def unionDeclaration (options : Options) (name : String) (info : SchemaInfo)
    (members : List UnionMember) (dependencies : List String) : Declaration :=
  let joined := union (members.map (·.typeName))
  let type := if info.nullable then makeNullable options joined else joined
  let doc := docComment (typeDoc options info) ""
  { name
    kind := .typeAlias
    content := s!"{doc}{options.exportWord}type {name} = {type};"
    dependencies }

/-- A union with at least one member, declared under a type name. -/
def lowerUnionMembers (name : String) (schema : Schema) (members : List Schema) :
    LowerM LoweredUnion := do
  let document ← document
  let options ← options
  let discriminator := discriminatorOf? document options schema
  let ((lowered, declarations), dependencies) ←
    collectDependencies (lowerMembers name discriminator members)
  let ownDependencies := dependencies.filter (· != name)
  let property := discriminator.map (·.property)
  let dispatch : UnionDispatch := ⟨name, lowered, property, document, options.exportWord⟩
  return {
    name
    discriminator := property
    members := lowered
    declaration := unionDeclaration options name schema.info lowered
      ((declarations.map (·.name)).foldl addName ownDependencies)
    memberDeclarations := declarations
    functions := dispatch.functions options.unions }

/-- A union, declared under the type name made of `name`. -/
def lowerUnion (name : String) (schema : Schema) : LowerM LoweredUnion := do
  let typeName := Name.pascal name
  withSegment typeName do
    match unionMembersOf schema with
    | [] =>
      let options ← options
      degenerate options.unions.emptyUnion noMembersReason
      return { name := typeName, declaration := bottomAlias options typeName }
    | members => lowerUnionMembers typeName schema members

end Lowering

end SchemaTypings
