import SchemaTypings.Proofs.Lowering.CompositionSites
import SchemaTypings.Proofs.Lowering.InlineRules

/-!
# Rules for operations

`Rules` adds to the rules for type expressions what operations are made of besides: they resolve
references, collect dependencies, and claim names. Whatever obeys the rules holds of every operation,
which asks for the demands of the schema that it lowers (`Rules.declare`). The proofs follow the
definitions of the operations, one theorem for each; compositions need no more than that the rules are a
logic of compositions (`Rules.compositionSound`).
-/

namespace SchemaTypings

open LowerM Lowering Typing

/-- The property holds of the parts of operations, and is kept by putting them together. -/
structure Rules (document : Document) (options : Options)
    (P : ∀ {α : Type}, List String → Nat → LowerM α → List Demand → Prop) : Prop
    extends InlineRules options P where
  readDocument {α : Type} {visited : List String} {depth : Nat} {next : Document → LowerM α}
    {demands : List Demand} : P visited depth (next document) demands →
      P visited depth (LowerM.document >>= next) demands
  collectDependencies {α : Type} {visited : List String} {depth : Nat} {step : LowerM α}
    {demands : List Demand} :
    P visited depth step demands → P visited depth (LowerM.collectDependencies step) demands
  claimName {visited : List String} {depth : Nat} (base : String) :
    P visited depth (LowerM.claimName base) []
  /-- A reference is resolved to some name; it leads back if it is being resolved. -/
  resolveReference {α : Type} {visited : List String} {depth : Nat} {reference : String}
    {next : Resolution → LowerM α} {demands : List Demand} :
    (∀ name, P visited depth (next ⟨name, visited.contains reference⟩) demands) →
      P visited depth (Lowering.resolveReference reference >>= next) (.follow reference :: demands)

namespace Rules

variable {document : Document} {options : Options}
  {P : ∀ {α : Type}, List String → Nat → LowerM α → List Demand → Prop}
  (rules : Rules document options P) {α β : Type} {visited : List String} {depth : Nat}

include rules

/-! ## Types and interfaces -/

theorem referenceName (reference : String) :
    P visited depth (referenceName reference) [.follow reference] :=
  rules.resolveReference fun name => rules.pure name

theorem typeExpression (schema : Schema) :
    P visited depth (typeExpression schema) (schema.demands options depth) :=
  rules.typeOf fun reference _ _ => rules.referenceName reference

theorem describe (schema : Schema) :
    P visited depth (describe schema) (schema.demands options depth) :=
  rules.map _ (rules.typeExpression schema)

theorem lowerAlias (name : String) (schema : Schema) :
    P visited depth (lowerAlias name schema) (schema.demands options depth) := by
  refine rules.bindNone (rules.withSegment _ (rules.collectDependencies (rules.describe schema)))
    fun described => ?_
  exact rules.readOptions (rules.pure _)

theorem mapM {γ : Type} {f : γ → LowerM β} {demands : γ → List Demand} {items : List γ}
    (h : ∀ item ∈ items, P visited depth (f item) (demands item)) :
    P visited depth (items.mapM f) (items.flatMap demands) := by
  induction items with
  | nil => exact rules.pure []
  | cons item rest ih =>
    rw [List.mapM_cons, List.flatMap_cons]
    refine rules.bind (h item (by simp)) fun first => ?_
    exact rules.map _ (ih fun other hother => h other (by simp [hother]))

theorem lowerShape (shape : ObjectShape Schema) (info : SchemaInfo) :
    P visited depth (lowerShape shape) (Schema.demands options depth ⟨.object shape, info⟩) := by
  rw [Schema.demands_object]
  refine rules.bind (rules.mapM fun property _ => ?_) fun properties => rules.map _ ?_
  · refine rules.bindNone (rules.withSegment _ (rules.describe property.2)) fun descriptor => ?_
    exact rules.readOptions (rules.pure _)
  · exact rules.indexValue fun schema _ => rules.typeExpression schema

theorem lowerInterface (name : String) (schema : Schema) :
    P visited depth (lowerInterface name schema)
      (Schema.demands options depth ⟨.object (objectShapeOf schema), schema.info⟩) := by
  refine rules.bindNone (rules.withSegment _ (rules.collectDependencies
    (rules.lowerShape _ schema.info))) fun lowered => ?_
  exact rules.readOptions (rules.pure _)

theorem declareInterface (name : String) (shape : ObjectShape Schema) (info : SchemaInfo) :
    P visited depth (declareInterface name ⟨.object shape, info⟩)
      (Schema.demands options depth ⟨.object shape, info⟩) :=
  rules.bindNone (rules.lowerInterface name _) fun _ => rules.readOptions (rules.pure _)

/-! ## Enumerations -/

omit rules in
theorem isEmpty_values (options : EnumOptions) (shape : EnumShape) :
    (EnumValue.all options shape).isEmpty = shape.values.isEmpty := by
  have hdistinguish : ∀ (taken : List String) (values : List EnumValue),
      (EnumValue.distinguish taken values).isEmpty = values.isEmpty := by
    intro taken values
    cases values <;> rfl
  unfold EnumValue.all
  rw [hdistinguish, Bool.eq_iff_iff, List.isEmpty_iff_length_eq_zero,
    List.isEmpty_iff_length_eq_zero]
  split <;> simp

theorem chooseStrategy (name : String) (values : List EnumValue) :
    P visited depth (chooseStrategy name values) [] := by
  refine rules.readOptions ?_
  dsimp only
  split
  · exact rules.bindNone (rules.warn _) fun _ => rules.pure _
  · exact rules.pure _

theorem lowerEnum (name : String) (schema : Schema) :
    P visited depth (lowerEnum name schema)
      (Schema.demands options depth ⟨.enum (enumShapeOf schema), schema.info⟩) := by
  refine rules.withSegment _ (rules.readOptions ?_)
  dsimp only
  rw [isEmpty_values, Schema.demands_enum]
  split
  · exact rules.bindNone (rules.degenerate _ _) fun _ => rules.pure _
  · exact rules.bindNone (rules.chooseStrategy _ _) fun strategy => rules.readOptions (rules.pure _)

/-! ## Unions -/

theorem referenceMember (target : String) (value : Option Json) (member : Schema) :
    P visited depth (referenceMember target value member) [.follow target] :=
  rules.bindNone (rules.referenceName target) fun _ => rules.pure _

theorem inlineMember (tag : String) (value : Option Json) (member : Schema) :
    P visited depth (inlineMember tag value member) (member.demands options depth) :=
  rules.bindNone (rules.typeExpression member) fun _ => rules.pure _

theorem claimThen {base : String} {next : String → LowerM α} {demands : List Demand}
    (h : ∀ name, P visited depth (next name) demands) :
    P visited depth (LowerM.claimName base >>= next) demands :=
  rules.bind (rules.claimName base) h

theorem discriminatedMember (union : String) (found : ResolvedDiscriminator) (index : Nat)
    (member : Schema) :
    P visited depth (discriminatedMember union found.property index (found.values[index]?).join member)
      ((pinnedMember (some found) (member, index)).demands options depth) := by
  obtain ⟨kind, info⟩ := member
  cases kind with
  | ref target =>
    show P visited depth _ (Schema.demands options depth ⟨.ref target, info⟩)
    rw [Schema.demands_ref]
    exact rules.referenceMember target _ _
  | object shape =>
    refine rules.claimThen fun name => ?_
    exact rules.bindNone (rules.declareInterface name _ info) fun _ => rules.pure _
  | _ => exact rules.inlineMember _ _ _

theorem plainMember (union : String) (index : Nat) (member : Schema) :
    P visited depth (plainMember union index member) (member.demands options depth) := by
  obtain ⟨kind, info⟩ := member
  have hinline : P visited depth
      (Lowering.inlineMember (memberName union index) none ⟨kind, info⟩)
      (Schema.demands options depth ⟨kind, info⟩) := rules.inlineMember _ _ _
  cases kind with
  | ref target =>
    rw [Schema.demands_ref]
    exact rules.referenceMember target none _
  | object shape =>
    refine rules.readOptions ?_
    dsimp only
    split
    · exact hinline
    · refine rules.claimThen fun name => ?_
      exact rules.bindNone (rules.declareInterface name shape info) fun _ => rules.pure _
  | _ =>
    refine rules.readOptions ?_
    dsimp only
    split
    · exact hinline
    · refine rules.claimThen fun name => ?_
      exact rules.bindNone (rules.map _ (rules.lowerAlias name _)) fun _ => rules.pure _

theorem lowerMembers (union : String) (discriminator : Option ResolvedDiscriminator)
    (members : List Schema) :
    P visited depth (lowerMembers union discriminator members)
      (members.zipIdx.flatMap fun member => options.levelDemands depth ++
        (pinnedMember discriminator member).demands options (depth + 1)) := by
  refine rules.bindNone (rules.mapM fun member _ => rules.descend _ ?_) fun _ => rules.pure _
  cases discriminator with
  | some found => exact rules.discriminatedMember union found member.2 member.1
  | none => exact rules.plainMember union member.2 member.1

theorem lowerUnion (name : String) (schema : Schema) :
    P visited depth (lowerUnion name schema) (unionDemands document options depth schema) := by
  refine rules.withSegment _ ?_
  unfold unionDemands
  cases unionMembersOf schema with
  | nil => exact rules.readOptions (rules.bindNone (rules.degenerate _ _) fun _ => rules.pure _)
  | cons member rest =>
    refine rules.readDocument (rules.readOptions ?_)
    exact rules.bindNone (rules.collectDependencies (rules.lowerMembers _ _ _)) fun _ => rules.pure _

/-! ## Compositions -/

theorem composeReference (target : String) (parts : CompositionParts) :
    P visited depth (composeReference target parts)
      (composeReferenceDemands options visited target) := by
  refine rules.resolveReference fun name => ?_
  by_cases hvisited : visited.contains target
  · simp only [hvisited, Bool.not_true, Bool.false_eq_true, if_false, Bool.true_and]
    refine rules.readOptions ?_
    cases options.composition.circularRefs with
    | error => exact rules.refuse fun scope => .circular target scope.pathText
    | marker => exact rules.pure _
  · simp only [hvisited, Bool.not_false, if_true, Bool.false_and, Bool.false_eq_true, if_false]
    exact rules.pure _

/-- What obeys the rules is said of compositions, whatever they give. -/
theorem compositionSound (visited : List String) : CompositionLogic.Sound
    { holds := fun depth _ step demands _ => P visited depth step demands } document options visited where
  pure _ := rules.pure _
  bind h hnext := rules.bind h hnext
  readOptions := rules.readOptions
  withSegment segment := rules.withSegment segment
  descend segment := rules.descend segment
  claimThen _ h := rules.claimThen fun name => h name trivial
  names _ := trivial
  child _ _ := trivial
  top := trivial
  intersection _ := trivial
  arrayOf _ := trivial
  later _ _ := trivial
  refl _ := trivial
  trans _ _ := trivial
  typeExpression _ := rules.typeExpression _
  indexValue _ := rules.indexValue fun schema _ => rules.typeExpression schema
  reference parts _ := rules.composeReference _ parts
  union _ {_ _ _} _ _ _ := rules.bindNone (rules.lowerUnion _ _) fun _ =>
    rules.readDocument (rules.readOptions (rules.pure _))
  absorb _ _ _ := ⟨trivial, trivial⟩
  assembled _ {_ _ _ _ _ _ _} _ _ h := rules.bindNone (rules.collectDependencies h) fun _ =>
    rules.readDocument (rules.readOptions (rules.pure _))

theorem compose (derive : Bool) (name : String) (schema : Schema) :
    P visited depth (compose derive name schema)
      (composeDemands document options visited depth schema) :=
  (rules.compositionSound visited).compose depth derive trivial trivial

theorem composeBody (owner : String) (info : SchemaInfo) (kind : SchemaKind Schema) :
    P visited depth (composeBody (Name.pascal owner) info kind)
      (composeBodyDemands document options visited depth info kind) := by
  obtain ⟨_, -, hbody⟩ := (rules.compositionSound visited).composeBody depth owner trivial
    fun child _ name _ => rules.compose false name child
  exact hbody

/-! ## Named schemas -/

/-- What obeys the rules holds of declaring a schema. -/
theorem declare (typeName : String) (schema : Schema) :
    P visited depth (declare typeName schema)
      (declareDemands document options visited depth schema) := by
  obtain ⟨kind, info⟩ := schema
  have hcompose : P visited depth (Composition.declarations <$>
      Lowering.compose true typeName ⟨kind, info⟩)
      (composeDemands document options visited depth ⟨kind, info⟩) :=
    rules.map _ (rules.compose true typeName _)
  have halias : P visited depth ((fun declaration => [declaration]) <$>
      Lowering.lowerAlias typeName ⟨kind, info⟩) (Schema.demands options depth ⟨kind, info⟩) :=
    rules.map _ (rules.lowerAlias typeName _)
  unfold Lowering.declare declareDemands
  cases kind with
  | enum shape => exact rules.map _ (rules.lowerEnum typeName _)
  | oneOf members | anyOf members => exact rules.map _ (rules.lowerUnion typeName _)
  | allOf members => exact hcompose
  | object shape =>
    by_cases h : shape.properties.any (·.2.isComposite)
    · simp only [Operation.select, Operation.ofKind, h, if_true]
      exact hcompose
    · simp only [Operation.select, Operation.ofKind, h]
      exact rules.declareInterface typeName shape info
  | array items =>
    by_cases h : items.isComposite
    · simp only [Operation.select, Operation.ofKind, h, if_true]
      exact hcompose
    · simp only [Operation.select, Operation.ofKind, h]
      exact halias
  | _ => exact halias

end Rules

end SchemaTypings
