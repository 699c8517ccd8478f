import SchemaTypings.Lowering.DerivedTypes
import SchemaTypings.Lowering.Union

/-!
# Compositions

A composed type is lowered part by part: what is small stands inline, everything else is declared on its
own under a name made of its owner's. Each level of composites goes one level down, so that the options
bound the nesting. A reference back to a type that is being composed is kept, and marked or refused as
the options say.
-/

namespace SchemaTypings

open Typing

/-- The result of composing a type. -/
structure Composition where
  typeName : String
  content : String
  dependencies : List String
  utilityTypes : List String := []
  helpers : List String := []
  complexity : Nat
  intermediates : List Declaration
  circularRefs : List String := []

namespace Composition

/-- What the main declaration introduces, as its text shows. -/
def mainKind (result : Composition) : DeclarationKind :=
  if Text.occursIn s!"interface {result.typeName} ".toList result.content.toList then .interface
  else .typeAlias

/-- A text derived from the type, as a declaration under the name that it introduces. -/
def derived (result : Composition) (kind : DeclarationKind) (content : String) : Declaration where
  name := (declaredName? content).getD result.typeName
  kind := kind
  content := content
  dependencies := [result.typeName]

def declarations (result : Composition) : List Declaration :=
  result.intermediates
    ++ ⟨result.typeName, result.mainKind, result.content, result.dependencies⟩
      :: (result.utilityTypes.map (result.derived .typeAlias)
        ++ result.helpers.map (result.derived .function))

end Composition

/-- What composing one type gives besides it: the declarations of its parts, and the references that
lead back. -/
structure CompositionParts where
  intermediates : List Declaration := []
  circularRefs : List String := []

namespace CompositionParts

/-- The parts with all declarations of a nested composition. -/
def absorb (parts : CompositionParts) (nested : Composition) : CompositionParts where
  intermediates := parts.intermediates ++ nested.declarations
  circularRefs := nested.circularRefs.foldl addName parts.circularRefs

def addCircular (parts : CompositionParts) (name : String) : CompositionParts :=
  { parts with circularRefs := addName parts.circularRefs name }

end CompositionParts

/-- What a composed type is: a type expression, or the members of an interface. -/
inductive CompositionBody where
  | alias (expr : String)
  | members (lines : String) (properties : List Property)

namespace Lowering

open LowerM

/-- The name of a reference within a composition. -/
def composeReference (target : String) (parts : CompositionParts) :
    LowerM (String × CompositionParts) := do
  let resolved ← resolveReference target
  if !resolved.circular then return (resolved.name, parts)
  else match (← options).composition.circularRefs with
    | .error => throw (.circular target (← scope).pathText)
    | .marker => return (resolved.name, parts.addCircular resolved.name)

/-- The documentation of a composed type. -/
def compositionDoc (options : Options) (info : SchemaInfo) (circularRefs : List String) :
    List String :=
  if options.generateComments then
    typeDoc options info ++ circularRefs.map fun name => s!"@circular {name}"
  else []

/-- The text that declares a composed type. A nullable one is an alias in any case. -/
def compositionContent (options : Options) (name : String) (info : SchemaInfo)
    (circularRefs : List String) (body : CompositionBody) : String :=
  let header := docComment (compositionDoc options info circularRefs) "" ++ options.exportWord
  match body, info.nullable with
  | .alias expr, false => s!"{header}type {name} = {expr};"
  | .alias expr, true => s!"{header}type {name} = {makeNullable options expr};"
  | .members lines _, true =>
    let literal := s!"\x7b\n{lines}\x7d"
    s!"{header}type {name} = {makeNullable options literal};"
  | .members lines _, false => s!"{header}interface {name} \x7b\n{lines}\x7d"

/-- The validator of a composed type, which only an interface has. -/
def compositionValidator? (options : Options) (name : String) (info : SchemaInfo)
    (body : CompositionBody) : Option Declaration :=
  match body, info.nullable with
  | .members _ properties, false => Validation.validator? options.exportWord name properties
  | _, _ => none

/-- The aliases derived from a composed type, if it is at the top and the options ask for them. -/
def utilityTypesFor (document : Document) (options : Options) (derive : Bool) (name : String)
    (schema : Schema) : List String :=
  if derive && options.composition.generateUtilityTypes then
    DerivedTypes.aliases document options name schema
  else []

/-- The functions derived from a composed type, if it is at the top and the options ask for them. -/
def structuralHelpersFor (document : Document) (options : Options) (derive : Bool) (name : String)
    (schema : Schema) : List String :=
  if derive && options.composition.generateHelpers then
    DerivedTypes.functions document options name schema
  else []

/-- A composed union: its declaration is that of the union. -/
def composeUnion (derive : Bool) (name : String) (schema : Schema) : LowerM Composition := do
  let union ← lowerUnion name schema
  return {
    typeName := name
    content := union.declaration.content
    dependencies := union.declaration.dependencies
    utilityTypes := utilityTypesFor (← document) (← options) derive name schema
    helpers := if derive then union.functions.map (·.content) else []
    complexity := schema.complexity
    intermediates := union.memberDeclarations }

/-- A composed type, of which the body, the parts and the dependencies are known. -/
def assemble (document : Document) (options : Options) (derive : Bool) (name : String)
    (schema : Schema) (body : CompositionBody) (parts : CompositionParts)
    (dependencies : List String) : Composition where
  typeName := name
  content := compositionContent options name schema.info parts.circularRefs body
  dependencies := ((parts.intermediates.map (·.name)).filter (· != name)).foldl addName
    (dependencies.filter (· != name))
  utilityTypes := utilityTypesFor document options derive name schema
  helpers := structuralHelpersFor document options derive name schema
    ++ ((compositionValidator? options name schema.info body).map (·.content)).toList
  complexity := schema.complexity
  intermediates := parts.intermediates
  circularRefs := parts.circularRefs

/-- A part of a composition that is declared on its own, under a name made of `base`. -/
def declarePart (compose : String → LowerM Composition) (base : String) (parts : CompositionParts) :
    LowerM (String × CompositionParts) := do
  let name ← claimName base
  let nested ← compose name
  return (name, parts.absorb nested)

/-- The type of the items of an array, with its parts; `compose` composes the items. -/
def composeItems (owner : String) (items : Schema) (compose : String → LowerM Composition) :
    LowerM (String × CompositionParts) := do
  match items.kind with
  | .ref target => composeReference target {}
  | _ =>
    if items.isComposite || !isInline (← options) items then
      descend "items" (declarePart compose s!"{owner}Item" {})
    else return (← typeExpression items, {})

/-- The type of the member at a position, with the parts so far and its own; `compose` composes the
member. -/
def composeMember (owner : String) (index : Nat) (member : Schema)
    (compose : String → LowerM Composition) (parts : CompositionParts) :
    LowerM (String × CompositionParts) :=
  descend (memberSegment index) do
    match member.kind with
    | .ref target => composeReference target parts
    | _ =>
      if isInline (← options) member then return (← typeExpression member, parts)
      else declarePart compose s!"{owner}Part{index + 1}" parts

/-- The descriptor of a property, with the parts so far and its own; `compose` composes its schema. -/
def composeDescriptor (owner name : String) (schema : Schema)
    (compose : String → LowerM Composition) (parts : CompositionParts) :
    LowerM (TypeDescriptor × CompositionParts) := do
  if schema.isComposite then
    let (type, parts) ← descend name (declarePart compose s!"{owner}{Name.pascal name}" parts)
    return (.ofSchema type schema.info.nullable schema.info, parts)
  else match schema.kind with
    | .ref target =>
      let (type, parts) ← withSegment name (composeReference target parts)
      return (.ofSchema type schema.info.nullable schema.info, parts)
    | _ => return (← withSegment name (describe schema), parts)

mutual

/-- A schema composed under the type name made of `name`. At the top, types and functions are derived
from it. -/
def compose (derive : Bool) (name : String) : Schema → LowerM Composition
  | ⟨.oneOf members, info⟩ => composeUnion derive (Name.pascal name) ⟨.oneOf members, info⟩
  | ⟨.anyOf members, info⟩ => composeUnion derive (Name.pascal name) ⟨.anyOf members, info⟩
  | ⟨kind, info⟩ =>
    let typeName := Name.pascal name
    withSegment typeName do
      let ((body, parts), dependencies) ← collectDependencies (composeBody typeName info kind)
      return assemble (← document) (← options) derive typeName ⟨kind, info⟩ body parts dependencies

/-- The body of a composed type, with its parts. -/
def composeBody (owner : String) (info : SchemaInfo) :
    SchemaKind Schema → LowerM (CompositionBody × CompositionParts)
  | .allOf members => do
    if members.isEmpty then return (.alias topType, {})
    else
      let (types, parts) ← composeMembers owner 0 {} members
      return (.alias (intersection types), parts)
  | .ref target => do
    let (type, parts) ← composeReference target {}
    return (.alias type, parts)
  | .object ⟨properties, required, additional⟩ => do
    if properties.isEmpty then
      let type ← typeExpression ⟨.object ⟨properties, required, additional⟩, info⟩
      return (.alias type, {})
    else
      let (lowered, parts) ← composeProperties owner required {} properties
      let index ← indexValue referenceName properties.isEmpty additional
      return (.members (memberLines (← options) lowered index) lowered, parts)
  | .array items => do
    let (element, parts) ← composeItems owner items fun name => compose false name items
    return (.alias (arrayOf (← options) element), parts)
  | kind => do
    let type ← typeExpression ⟨kind, info⟩
    return (.alias type, {})

/-- The types of the members from position `index` on, with the parts so far and theirs. -/
def composeMembers (owner : String) (index : Nat) (parts : CompositionParts) :
    List Schema → LowerM (List String × CompositionParts)
  | [] => return ([], parts)
  | member :: rest => do
    let (type, parts) ←
      composeMember owner index member (fun name => compose false name member) parts
    let (types, parts) ← composeMembers owner (index + 1) parts rest
    return (type :: types, parts)

/-- The properties, with the parts so far and theirs. -/
def composeProperties (owner : String) (required : List String) (parts : CompositionParts) :
    List (String × Schema) → LowerM (List Property × CompositionParts)
  | [] => return ([], parts)
  | (name, schema) :: rest => do
    let (descriptor, parts) ←
      composeDescriptor owner name schema (fun typeName => compose false typeName schema) parts
    let property := Property.ofDescriptor (← options) name descriptor schema.info
      (required.contains name)
    let (properties, parts) ← composeProperties owner required parts rest
    return (property :: properties, parts)

end

end Lowering

end SchemaTypings
