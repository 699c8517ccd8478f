import SchemaTypings.Proofs.Lowering.Run
import SchemaTypings.Proofs.Schema.Children

/-!
# Congruences for type expressions

Type expressions with different resolvers of references are alike in whatever way what the resolvers
give is alike, if steps that are alike stay so when they are put together. `InlineCongruence` says so for
the parts of type expressions, of a relation between steps, and `InlineCongruence.typeOf` for type
expressions.
-/

namespace SchemaTypings

open LowerM Lowering Typing

/-- The relation holds between the parts of type expressions and themselves, and is kept by putting steps
together. -/
structure InlineCongruence (R : ∀ {α : Type}, LowerM α → LowerM α → Prop) : Prop where
  pure {α : Type} (value : α) : R (Pure.pure value) (Pure.pure value)
  options : R LowerM.options LowerM.options
  refuse {α : Type} (error : Scope → LoweringError) :
    R (LowerM.scope >>= fun scope => (throw (error scope) : LowerM α))
      (LowerM.scope >>= fun scope => throw (error scope))
  warn (message : String) : R (LowerM.warn message) (LowerM.warn message)
  bind {α β : Type} {step step' : LowerM α} {next next' : α → LowerM β} : R step step' →
    (∀ value, R (next value) (next' value)) → R (step >>= next) (step' >>= next')
  withSegment {α : Type} {step step' : LowerM α} (segment : String) : R step step' →
    R (LowerM.withSegment segment step) (LowerM.withSegment segment step')
  descend {α : Type} {step step' : LowerM α} (segment : String) : R step step' →
    R (LowerM.descend segment step) (LowerM.descend segment step')

namespace InlineCongruence

variable {R : ∀ {α : Type}, LowerM α → LowerM α → Prop} (congruence : InlineCongruence R)
  {α β : Type} {step step' : LowerM α} {resolve resolve' : String → LowerM String}

include congruence

theorem map (f : α → β) (h : R step step') : R (f <$> step) (f <$> step') := by
  rw [← bind_pure_comp, ← bind_pure_comp]
  exact congruence.bind h fun value => congruence.pure (f value)

theorem readOptions {next next' : Options → LowerM α} (h : ∀ options, R (next options) (next' options)) :
    R (LowerM.options >>= next) (LowerM.options >>= next') :=
  congruence.bind congruence.options h

/-- What is degenerate, and stands for a fixed result where that is allowed. -/
theorem degenerateThen (policy : Options → DegeneratePolicy) (reason : String) (result : α) :
    R (do
      LowerM.degenerate (policy (← LowerM.options)) reason
      return result) (do
      LowerM.degenerate (policy (← LowerM.options)) reason
      return result) := by
  refine congruence.readOptions fun options => congruence.bind ?_ fun _ => congruence.pure _
  cases policy options with
  | error => exact congruence.refuse fun scope => .degenerate scope.pathText reason
  | never => exact congruence.warn _

/-! ## Parts of type expressions -/

theorem typesOfMembers {members : List Schema} (index : Nat)
    (hmembers : ∀ member ∈ members, R (typeOf resolve member) (typeOf resolve' member)) :
    R (typesOfMembers resolve index members) (typesOfMembers resolve' index members) := by
  induction members generalizing index with
  | nil => exact congruence.pure []
  | cons member rest ih =>
    rw [Lowering.typesOfMembers, Lowering.typesOfMembers]
    refine congruence.bind (congruence.descend _ (hmembers member (by simp))) fun type => ?_
    exact congruence.map _ (ih (index + 1) fun other h => hmembers other (by simp [h]))

theorem indexValue {propertyless : Bool} {additional : Additional Schema}
    (hschemas : ∀ schema ∈ additional.schemas, R (typeOf resolve schema) (typeOf resolve' schema)) :
    R (indexValue resolve propertyless additional) (indexValue resolve' propertyless additional) := by
  cases additional with
  | schema value =>
    rw [Lowering.indexValue, Lowering.indexValue]
    exact congruence.map _
      (congruence.withSegment additionalSegment (hschemas value (by simp [Additional.schemas])))
  | _ => exact congruence.pure _

theorem signaturesOf {required : List String} {properties : List (String × Schema)}
    (hproperties : ∀ property ∈ properties,
      R (typeOf resolve property.2) (typeOf resolve' property.2)) :
    R (signaturesOf resolve required properties) (signaturesOf resolve' required properties) := by
  induction properties with
  | nil => exact congruence.pure []
  | cons property rest ih =>
    obtain ⟨name, schema⟩ := property
    rw [Lowering.signaturesOf, Lowering.signaturesOf]
    refine congruence.bind (congruence.withSegment _ (hproperties (name, schema) (by simp)))
      fun type => congruence.readOptions fun options => ?_
    exact congruence.map _ (ih fun other h => hproperties other (by simp [h]))

theorem typeOfKind {format : Option String} {kind : SchemaKind Schema}
    (hresolve : ∀ reference, kind = .ref reference → R (resolve reference) (resolve' reference))
    (hchildren : ∀ child ∈ Schema.childrenOfKind kind,
      R (typeOf resolve child) (typeOf resolve' child)) :
    R (typeOfKind resolve format kind) (typeOfKind resolve' format kind) := by
  cases kind with
  | any => exact congruence.pure topType
  | ref target => exact hresolve target rfl
  | oneOf members | anyOf members =>
    rw [Lowering.typeOfKind, Lowering.typeOfKind]
    split
    · exact congruence.degenerateThen (·.unions.emptyUnion) noMembersReason bottomType
    · exact congruence.map union (congruence.typesOfMembers 0 hchildren)
  | allOf members =>
    rw [Lowering.typeOfKind, Lowering.typeOfKind]
    split
    · exact congruence.pure topType
    · exact congruence.map intersection (congruence.typesOfMembers 0 hchildren)
  | array items =>
    rw [Lowering.typeOfKind, Lowering.typeOfKind]
    refine congruence.readOptions fun options => congruence.map _ (hchildren items ?_)
    simp [Schema.childrenOfKind]
  | object shape =>
    obtain ⟨properties, required, additional⟩ := shape
    rw [Lowering.typeOfKind, Lowering.typeOfKind]
    refine congruence.bind (congruence.indexValue fun schema h =>
      hchildren schema (by simp [Schema.childrenOfKind, ObjectShape.schemas, h])) fun index => ?_
    split
    · exact congruence.readOptions fun options => congruence.pure _
    · refine congruence.map _ (congruence.signaturesOf fun property h => hchildren property.2 ?_)
      simp only [Schema.childrenOfKind, ObjectShape.schemas, List.mem_append, List.mem_map]
      exact Or.inl ⟨property, h, rfl⟩
  | enum shape =>
    rw [Lowering.typeOfKind, Lowering.typeOfKind, enumType]
    split
    · exact congruence.degenerateThen (·.enums.emptyEnum) noValuesReason bottomType
    · exact congruence.pure _
  | primitive type =>
    rw [Lowering.typeOfKind, Lowering.typeOfKind]
    exact congruence.readOptions fun options => congruence.pure _

/-- The type expression of a schema with either resolver, if what they give is alike for the references
in the schema. -/
protected theorem typeOf {schema : Schema} (hresolve : ∀ reference, schema.Mentions reference →
      R (resolve reference) (resolve' reference)) :
    R (typeOf resolve schema) (typeOf resolve' schema) := by
  induction schema using Schema.inductionOn with
  | step schema ih =>
    have hchildren : ∀ child ∈ schema.children,
        R (Lowering.typeOf resolve child) (Lowering.typeOf resolve' child) :=
      fun child hchild => ih child hchild fun reference h => hresolve reference (.of_child hchild h)
    obtain ⟨kind, info⟩ := schema
    have hkind : R (Lowering.typeOfKind resolve info.format kind)
        (Lowering.typeOfKind resolve' info.format kind) :=
      congruence.typeOfKind (fun reference h => hresolve reference ⟨_, .refl _, h⟩) hchildren
    have hnullable : R (do
          let base ← Lowering.typeOfKind resolve info.format kind
          if info.nullable then return makeNullable (← LowerM.options) base else return base)
        (do
          let base ← Lowering.typeOfKind resolve' info.format kind
          if info.nullable then return makeNullable (← LowerM.options) base else return base) := by
      refine congruence.bind hkind fun base => ?_
      split
      · exact congruence.readOptions fun options => congruence.pure _
      · exact congruence.pure _
    cases kind with
    | ref target => exact hkind
    | _ => exact hnullable

end InlineCongruence

end SchemaTypings
