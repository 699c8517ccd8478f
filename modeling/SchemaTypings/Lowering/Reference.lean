import SchemaTypings.Lowering.Inline

/-!
# References

A reference resolves to a type name. While it is being resolved, another occurrence of it is a forward
reference under the same name; once resolved, its name is recorded. A reference to a named schema only
has its target checked, which is declared in its own place; a reference below a named schema declares
an alias for its target.

References that are being resolved differ from one another, and all but the outermost one stand in the
document. So no more of them are ever active than the document holds strings, and one more.
-/

namespace SchemaTypings.Lowering

open LowerM Typing

/-- What a reference resolves to, and whether it leads back to where it is being resolved. -/
structure Resolution where
  name : String
  circular : Bool
  deriving DecidableEq, Repr

/-- The name of a reference that is being resolved: the recorded one, the one reserved for it, or the
one of its last segment. -/
def forwardReference (reference : String) : LowerM Resolution := do
  let alias_ := (← document).alias? reference
  let name := ((← recorded? reference) <|> alias_).getD (Name.ofReference reference)
  modify (Store.depend name)
  return ⟨name, true⟩

/-- The name of a reference to a named schema, whose target must lower. -/
def resolveNamed (target : LowerM String) (reference : String) : LowerM String := do
  let name := Name.ofReference reference
  let _ ← atDeclarationRoot (withSegment name (isolateDependencies target))
  modify (Store.record reference name)
  return name

/-- The alias that declares the target of a reference below a named schema. -/
def aliasDeclaration (options : Options) (name type : String) (dependencies : List String) :
    Declaration where
  name := name
  kind := .typeAlias
  content := s!"{options.exportWord}type {name} = {type};"
  dependencies := dependencies.filter (· != name)

/-- The name of a reference below a named schema, declared as an alias of its target. It is recorded
while the target lowers, and forgotten if that fails. -/
def resolveBelow (target : LowerM String) (reference : String) : LowerM String := do
  let name ← match (← document).alias? reference with
    | some reserved => pure reserved
    | none => claimName (Name.ofPointer reference)
  modify (Store.record reference name)
  let result ← attempt <| atDeclarationRoot <| withSegment name <|
    isolateDependencies (collectDependencies target)
  match result with
  | .error error =>
    modify (Store.forget reference)
    throw error
  | .ok (type, dependencies) =>
    modify (Store.declare (aliasDeclaration (← options) name type dependencies))
    return name

/-- The name of a reference that is not being resolved, given how its target lowers. -/
def resolveFresh (lower : Schema → LowerM String) (reference : String) : LowerM String := do
  match ← recorded? reference with
  | some name => return name
  | none =>
    let document ← document
    match document.resolve? reference with
    | none => throw (.unresolved reference (← scope).pathText)
    | some target =>
      if document.isNamed reference then resolveNamed (lower target) reference
      else resolveBelow (lower target) reference

/-- What a reference resolves to, if no more than `active` references may be entered within each
other. -/
def resolveWithin : Nat → String → LowerM Resolution
  | 0, reference => forwardReference reference
  | active + 1, reference => do
    if (← scope).visited.contains reference then forwardReference reference
    else
      let lower := typeOf fun target => Resolution.name <$> resolveWithin active target
      let name ← withVisited reference (resolveFresh lower reference)
      modify (Store.depend name)
      return ⟨name, false⟩

/-- What a reference resolves to. -/
def resolveReference (reference : String) : LowerM Resolution := do
  resolveWithin (← document).referenceBound reference

/-- The name that a reference resolves to. -/
def referenceName (reference : String) : LowerM String :=
  Resolution.name <$> resolveReference reference

/-- The type expression of a schema. -/
def typeExpression (schema : Schema) : LowerM String :=
  typeOf referenceName schema

/-- The type of a schema, with the data that goes along. -/
def describe (schema : Schema) : LowerM TypeDescriptor := do
  let isReference := match schema.kind with
    | .ref _ => true
    | _ => false
  let type ← typeExpression schema
  return .ofSchema type (schema.info.nullable && !isReference) schema.info

/-- The type of a schema that may be absent: nothing is known then. -/
def describeOptional : Option Schema → LowerM TypeDescriptor
  | none => return { typeName := topType }
  | some schema => describe schema

end SchemaTypings.Lowering
