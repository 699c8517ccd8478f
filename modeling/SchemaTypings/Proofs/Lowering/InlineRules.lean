import SchemaTypings.Proofs.Lowering.Run
import SchemaTypings.Proofs.Schema.Demands

/-!
# Rules for type expressions

Many properties of steps are found in the same way: they hold of what steps are made of, and the ways
steps are put together keep them. `InlineRules` says so for the parts of type expressions, of a property
of a step beside the references being resolved, the levels of composition above it, and what the step
asks for. Whatever obeys the rules holds of every type expression, which asks for the demands of its
schema, if it holds of what references resolve to (`InlineRules.typeOf`).
-/

namespace SchemaTypings

open LowerM Lowering Typing

/-- The property holds of the parts of type expressions, and is kept by putting them together. -/
structure InlineRules (options : Options)
    (P : ∀ {α : Type}, List String → Nat → LowerM α → List Demand → Prop) : Prop where
  congr {α : Type} {visited : List String} {depth : Nat} {step : LowerM α}
    {demands others : List Demand} : P visited depth step demands →
      (∀ demand, demand ∈ demands ↔ demand ∈ others) → P visited depth step others
  pure {α : Type} {visited : List String} {depth : Nat} (value : α) :
    P visited depth (Pure.pure value) []
  bind {α β : Type} {visited : List String} {depth : Nat} {step : LowerM α} {next : α → LowerM β}
    {demands others : List Demand} : P visited depth step demands →
      (∀ value, P visited depth (next value) others) →
        P visited depth (step >>= next) (demands ++ others)
  readOptions {α : Type} {visited : List String} {depth : Nat} {next : Options → LowerM α}
    {demands : List Demand} : P visited depth (next options) demands →
      P visited depth (LowerM.options >>= next) demands
  refuse {α : Type} {visited : List String} {depth : Nat} (error : Scope → LoweringError) :
    P visited depth (LowerM.scope >>= fun scope => (throw (error scope) : LowerM α)) [.refuse]
  warn {visited : List String} {depth : Nat} (message : String) :
    P visited depth (LowerM.warn message) []
  withSegment {α : Type} {visited : List String} {depth : Nat} {step : LowerM α}
    {demands : List Demand} (segment : String) : P visited depth step demands →
      P visited depth (LowerM.withSegment segment step) demands
  descend {α : Type} {visited : List String} {depth : Nat} {step : LowerM α}
    {demands : List Demand} (segment : String) : P visited (depth + 1) step demands →
      P visited depth (LowerM.descend segment step) (options.levelDemands depth ++ demands)

namespace InlineRules

variable {options : Options}
  {P : ∀ {α : Type}, List String → Nat → LowerM α → List Demand → Prop}
  (rules : InlineRules options P) {α β : Type} {visited : List String} {depth : Nat}

include rules

/-! ## Derived rules -/

theorem map {step : LowerM α} {demands : List Demand} (f : α → β)
    (h : P visited depth step demands) : P visited depth (f <$> step) demands := by
  rw [← bind_pure_comp, ← List.append_nil demands]
  exact rules.bind h fun value => rules.pure (f value)

theorem bindNone {step : LowerM α} {next : α → LowerM β} {demands : List Demand}
    (h : P visited depth step demands) (hnext : ∀ value, P visited depth (next value) []) :
    P visited depth (step >>= next) demands := by
  rw [← List.append_nil demands]
  exact rules.bind h hnext

/-- A step and the next one, the demands of which are listed first. -/
theorem bindSwapped {step : LowerM α} {next : α → LowerM β} {demands others : List Demand}
    (h : P visited depth step demands) (hnext : ∀ value, P visited depth (next value) others) :
    P visited depth (step >>= next) (others ++ demands) :=
  rules.congr (rules.bind h hnext) fun demand => by simp only [List.mem_append, or_comm]

theorem degenerate (policy : DegeneratePolicy) (reason : String) :
    P visited depth (LowerM.degenerate policy reason) policy.demands := by
  cases policy with
  | error => exact rules.refuse fun scope => .degenerate scope.pathText reason
  | never => exact rules.warn _

/-- What is degenerate, and stands for a fixed result where that is allowed. -/
theorem degenerateThen (policy : Options → DegeneratePolicy) (reason : String) (result : α) :
    P visited depth (do
      LowerM.degenerate (policy (← LowerM.options)) reason
      return result) (policy options).demands :=
  rules.readOptions (rules.bindNone (rules.degenerate _ _) fun _ => rules.pure _)

/-! ## Type expressions -/

variable {resolve : String → LowerM String}

theorem typesOfMembers {members : List Schema} (index : Nat)
    (hmembers : ∀ member ∈ members, ∀ depth,
      P visited depth (typeOf resolve member) (member.demands options depth)) :
    P visited depth (typesOfMembers resolve index members) (members.flatMap fun member =>
      options.levelDemands depth ++ member.demands options (depth + 1)) := by
  induction members generalizing index with
  | nil => exact rules.pure []
  | cons member rest ih =>
    rw [List.flatMap_cons, Lowering.typesOfMembers]
    refine rules.bind (rules.descend _ (hmembers member (by simp) _)) fun type => ?_
    exact rules.map _ (ih (index + 1) fun other h => hmembers other (by simp [h]))

theorem indexValue {propertyless : Bool} {additional : Additional Schema}
    (hschemas : ∀ schema ∈ additional.schemas,
      P visited depth (typeOf resolve schema) (schema.demands options depth)) :
    P visited depth (indexValue resolve propertyless additional)
      (additional.schemas.flatMap (·.demands options depth)) := by
  cases additional with
  | schema value =>
    rw [Lowering.indexValue]
    have h := rules.withSegment additionalSegment (hschemas value (by simp [Additional.schemas]))
    exact rules.congr (rules.map _ h) (by simp [Additional.schemas])
  | _ => exact rules.pure _

theorem signaturesOf {required : List String} {properties : List (String × Schema)}
    (hproperties : ∀ property ∈ properties,
      P visited depth (typeOf resolve property.2) (property.2.demands options depth)) :
    P visited depth (signaturesOf resolve required properties)
      (properties.flatMap (·.2.demands options depth)) := by
  induction properties with
  | nil => exact rules.pure []
  | cons property rest ih =>
    obtain ⟨name, schema⟩ := property
    rw [List.flatMap_cons, Lowering.signaturesOf]
    refine rules.bind (rules.withSegment _ (hproperties (name, schema) (by simp))) fun type => ?_
    refine rules.readOptions (rules.map _ (ih fun other h => hproperties other (by simp [h])))

theorem enumType (shape : EnumShape) (info : SchemaInfo) :
    P visited depth (enumType shape) (Schema.demands options depth ⟨.enum shape, info⟩) := by
  rw [Lowering.enumType, Schema.demands_enum]
  split
  · exact rules.degenerateThen (·.enums.emptyEnum) noValuesReason bottomType
  · exact rules.pure _

theorem objectType {shape : ObjectShape Schema} {format : Option String} (info : SchemaInfo)
    (hchildren : ∀ child ∈ shape.schemas,
      P visited depth (typeOf resolve child) (child.demands options depth)) :
    P visited depth (typeOfKind resolve format (.object shape))
      (Schema.demands options depth ⟨.object shape, info⟩) := by
  obtain ⟨properties, required, additional⟩ := shape
  rw [Lowering.typeOfKind, Schema.demands_object]
  have hindex : P visited depth (Lowering.indexValue resolve properties.isEmpty additional)
      (additional.schemas.flatMap (·.demands options depth)) :=
    rules.indexValue fun schema h => hchildren schema (by simp [ObjectShape.schemas, h])
  have hsignatures : P visited depth (Lowering.signaturesOf resolve required properties)
      (properties.flatMap (·.2.demands options depth)) :=
    rules.signaturesOf fun property h => hchildren property.2 (by
      simp only [ObjectShape.schemas, List.mem_append, List.mem_map]
      exact Or.inl ⟨property, h, rfl⟩)
  refine rules.bindSwapped hindex fun index => ?_
  split
  · rename_i hempty
    rw [List.isEmpty_iff.mp hempty]
    exact rules.readOptions (rules.pure _)
  · exact rules.map _ hsignatures

theorem typeOfKind {format : Option String} {kind : SchemaKind Schema} (info : SchemaInfo)
    (hresolve : ∀ reference, kind = .ref reference →
      P visited depth (resolve reference) [.follow reference])
    (hchildren : ∀ child ∈ Schema.childrenOfKind kind, ∀ depth,
      P visited depth (typeOf resolve child) (child.demands options depth)) :
    P visited depth (typeOfKind resolve format kind) (Schema.demands options depth ⟨kind, info⟩) := by
  cases kind with
  | any =>
    rw [Schema.demands_any]
    exact rules.pure topType
  | ref target =>
    rw [Schema.demands_ref]
    exact hresolve target rfl
  | oneOf members | anyOf members =>
    rw [Lowering.typeOfKind]
    cases members with
    | nil =>
      first | rw [Schema.demands_oneOf_nil] | rw [Schema.demands_anyOf_nil]
      exact rules.degenerateThen (·.unions.emptyUnion) noMembersReason bottomType
    | cons member rest =>
      refine rules.congr (rules.map union (rules.typesOfMembers 0 hchildren)) fun demand => ?_
      rw [Schema.mem_demands_of_levels (by simp [Schema.levels])]
      rfl
  | allOf members =>
    rw [Lowering.typeOfKind]
    cases members with
    | nil =>
      rw [Schema.demands_allOf_nil]
      exact rules.pure topType
    | cons member rest =>
      refine rules.congr (rules.map intersection (rules.typesOfMembers 0 hchildren)) fun demand => ?_
      rw [Schema.mem_demands_of_levels (by simp [Schema.levels])]
      rfl
  | array items =>
    rw [Lowering.typeOfKind, Schema.demands_array]
    refine rules.readOptions (rules.map _ (hchildren items ?_ depth))
    simp [Schema.childrenOfKind]
  | object shape => exact rules.objectType info fun child h => hchildren child h depth
  | enum shape =>
    rw [Lowering.typeOfKind]
    exact rules.enumType shape info
  | primitive type =>
    rw [Lowering.typeOfKind, Schema.demands_primitive]
    exact rules.readOptions (rules.pure _)

/-- What obeys the rules, and holds of what the references in a schema resolve to, holds of its type
expression. -/
protected theorem typeOf {schema : Schema} (hresolve : ∀ reference, schema.Mentions reference →
      ∀ depth, P visited depth (resolve reference) [.follow reference]) :
    P visited depth (typeOf resolve schema) (schema.demands options depth) := by
  induction schema using Schema.inductionOn generalizing depth with
  | step schema ih =>
    have hchildren : ∀ child ∈ schema.children, ∀ depth,
        P visited depth (Lowering.typeOf resolve child) (child.demands options depth) :=
      fun child hchild _ => ih child hchild fun reference h => hresolve reference (.of_child hchild h)
    obtain ⟨kind, info⟩ := schema
    have hkind : P visited depth (Lowering.typeOfKind resolve info.format kind)
        (Schema.demands options depth ⟨kind, info⟩) := rules.typeOfKind info
      (fun reference h => hresolve reference ⟨_, .refl _, h⟩ depth) hchildren
    have hnullable : P visited depth (do
        let base ← Lowering.typeOfKind resolve info.format kind
        if info.nullable then return makeNullable (← LowerM.options) base else return base)
        (Schema.demands options depth ⟨kind, info⟩) := by
      refine rules.bindNone hkind fun base => ?_
      split
      · exact rules.readOptions (rules.pure _)
      · exact rules.pure _
    cases kind with
    | ref target => exact hkind
    | _ => exact hnullable

end InlineRules

end SchemaTypings
