import SchemaTypings.Proofs.Decode.Success
import SchemaTypings.Proofs.Lowering.Run

/-!
# Where null is kept, and where it is lost

A nullable schema is lowered side by side with the same schema without null (`Mirrors`). Wherever it stands
inline, its type expression is the one without null, made nullable. Where it is declared on its own, this
holds of the type in its declaration, with three exceptions: an interface, an enumeration and a union
without members are declared as if they were not nullable. `Site.renders_null` says so of every place in
which a schema can stand.
-/

namespace SchemaTypings

open LowerM Lowering Typing

/-- The schema as one that is not nullable. -/
def Schema.withoutNull (schema : Schema) : Schema :=
  { schema with info := { schema.info with nullable := false } }

/-- Whether the schema is a union without members. -/
def Schema.isEmptyUnion (schema : Schema) : Bool :=
  match schema.kind with
  | .oneOf [] | .anyOf [] => true
  | _ => false

theorem Schema.kind_of_isEmptyUnion {schema : Schema} (h : schema.isEmptyUnion) :
    schema.kind = .oneOf [] ∨ schema.kind = .anyOf [] := by
  unfold isEmptyUnion at h
  split at h <;> simp_all

theorem Schema.kind_ne_ref_of_isEmptyUnion {schema : Schema} (h : schema.isEmptyUnion)
    (target : String) : schema.kind ≠ .ref target := by
  rcases kind_of_isEmptyUnion h with h | h <;> simp [h]

theorem Schema.isComposite_of_isEmptyUnion {schema : Schema} (h : schema.isEmptyUnion) :
    schema.isComposite := by
  rcases kind_of_isEmptyUnion h with h | h <;> simp [isComposite, h]

theorem Schema.unionMembersOf_ne_nil {schema : Schema} (hselect : Operation.select schema = .union)
    (h : schema.isEmptyUnion = false) : unionMembersOf schema ≠ [] := by
  obtain ⟨members, hkind⟩ := Operation.kind_of_select_union hselect
  cases members with
  | nil => rcases hkind with hkind | hkind <;> simp [isEmptyUnion, hkind] at h
  | cons member rest => rcases hkind with hkind | hkind <;> simp [unionMembersOf, hkind]

theorem Schema.isEmptyUnion_of_select_compose {schema : Schema}
    (hselect : Operation.select schema = .compose) : schema.isEmptyUnion = false := by
  refine Bool.eq_false_iff.mpr fun hempty => ?_
  rcases kind_of_isEmptyUnion hempty with h | h <;>
    simp [Operation.select, Operation.ofKind, h] at hselect

/-! ## Steps side by side -/

/-- Two results are the same failure, or are related. -/
inductive ResultsRelated {α β : Type} (related : α → β → Prop) :
    Except LoweringError α → Except LoweringError β → Prop
  | ok {value : α} {value' : β} (h : related value value') :
    ResultsRelated related (.ok value) (.ok value')
  | error (error : LoweringError) : ResultsRelated related (.error error) (.error error)

/-- With the options, the steps leave the same store from wherever they are run, and both fail in the same
way or give related results. -/
def LowerM.Mirrors {α β : Type} (options : Options) (related : α → β → Prop) (step : LowerM α)
    (step' : LowerM β) : Prop :=
  ∀ setting : Setting, setting.options = options → ∀ store,
    ResultsRelated related (step.runWith setting store).1 (step'.runWith setting store).1 ∧
      (step.runWith setting store).2 = (step'.runWith setting store).2

namespace LowerM.Mirrors

variable {α β γ δ : Type} {options : Options} {related : α → β → Prop} {step : LowerM α}
  {step' : LowerM β} {result : γ → δ → Prop}

theorem of_forall {related : α → α → Prop} (step : LowerM α) (h : ∀ value, related value value) :
    Mirrors options related step step := by
  intro setting _ store
  refine ⟨?_, rfl⟩
  cases (step.runWith setting store).1 with
  | ok value => exact .ok (h value)
  | error error => exact .error error

theorem refl (step : LowerM α) : Mirrors options Eq step step :=
  of_forall step fun _ => rfl

theorem pure {value : α} {value' : β} (h : related value value') :
    Mirrors options related (Pure.pure value) (Pure.pure value') :=
  fun _ _ _ => ⟨.ok h, rfl⟩

theorem bind {next : α → LowerM γ} {next' : β → LowerM δ}
    (h : Mirrors options related step step')
    (hnext : ∀ value value', related value value' →
      Mirrors options result (next value) (next' value')) :
    Mirrors options result (step >>= next) (step' >>= next') := by
  intro setting hoptions store
  have hrun := h setting hoptions store
  rw [runWith_bind, runWith_bind]
  revert hrun
  rcases step.runWith setting store with ⟨first, between⟩
  rcases step'.runWith setting store with ⟨first', between'⟩
  rintro ⟨hresults, hstores⟩
  obtain rfl : between = between' := hstores
  cases hresults with
  | ok hvalues => exact hnext _ _ hvalues setting hoptions between
  | error error => exact ⟨.error error, rfl⟩

theorem bindSame {next : α → LowerM γ} {next' : α → LowerM δ} (step : LowerM α)
    (hnext : ∀ value, Mirrors options result (next value) (next' value)) :
    Mirrors options result (step >>= next) (step >>= next') :=
  (refl step).bind fun value _ h => h ▸ hnext value

theorem map {f : α → γ} {f' : β → δ} (h : Mirrors options related step step')
    (hvalues : ∀ value value', related value value' → result (f value) (f' value')) :
    Mirrors options result (f <$> step) (f' <$> step') := by
  rw [← bind_pure_comp, ← bind_pure_comp]
  exact h.bind fun value value' hrelated => pure (hvalues value value' hrelated)

theorem readOptions {next : Options → LowerM γ} {next' : Options → LowerM δ}
    (h : Mirrors options result (next options) (next' options)) :
    Mirrors options result (LowerM.options >>= next) (LowerM.options >>= next') := by
  rintro setting rfl store
  exact h setting rfl store

theorem withSegment (segment : String) (h : Mirrors options related step step') :
    Mirrors options related (LowerM.withSegment segment step) (LowerM.withSegment segment step') :=
  fun _ hoptions => h _ hoptions

theorem descend (segment : String) (h : Mirrors options related step step') :
    Mirrors options related (LowerM.descend segment step) (LowerM.descend segment step') := by
  intro setting hoptions store
  rw [runWith_descend, runWith_descend]
  split
  · exact ⟨.error _, rfl⟩
  · exact h { setting with
      scope := { setting.scope.push segment with depth := setting.scope.depth + 1 } } hoptions store

theorem collectDependencies (h : Mirrors options related step step') :
    Mirrors options (fun value value' => related value.1 value'.1 ∧ value.2 = value'.2)
      (LowerM.collectDependencies step) (LowerM.collectDependencies step') := by
  intro setting hoptions store
  have hrun := h setting hoptions { store with dependencies := [] }
  unfold LowerM.collectDependencies
  rw [runWith_scopedDependencies, runWith_scopedDependencies]
  revert hrun
  rcases step.runWith setting { store with dependencies := [] } with ⟨first, after⟩
  rcases step'.runWith setting { store with dependencies := [] } with ⟨first', after'⟩
  rintro ⟨hresults, hstores⟩
  obtain rfl : after = after' := hstores
  cases hresults with
  | ok hvalues => exact ⟨.ok ⟨hvalues, rfl⟩, rfl⟩
  | error error => exact ⟨.error error, rfl⟩

end LowerM.Mirrors

/-! ## Inline types -/

variable {options : Options} {schema : Schema}

/-- To make a type nullable twice is to do it once. -/
theorem Typing.makeNullable_makeNullable (options : Options) (base : String) :
    makeNullable options (makeNullable options base) = makeNullable options base := by
  have hsuffix : s!"| {nullSuffix options}".toList.isSuffixOf
      s!"{base} | {nullSuffix options}".toList := by
    refine List.isSuffixOf_iff_suffix.mpr ⟨s!"{base} ".toList, ?_⟩
    simp only [String.toList_append, List.append_assoc]
    rfl
  simp only [makeNullable]
  split
  · rfl
  · by_cases hnull : base == "null" || s!"| {nullSuffix options}".toList.isSuffixOf base.toList
    · rw [if_pos hnull, if_pos hnull]
    · rw [if_neg hnull, hsuffix, Bool.or_true, if_pos rfl]

namespace Lowering

/-- The type expression of a nullable schema is the one without null, made nullable. -/
theorem typeOf_withoutNull (resolve : String → LowerM String) (hnullable : schema.info.nullable)
    (hkind : ∀ target, schema.kind ≠ .ref target) :
    Mirrors options (fun type plain => type = makeNullable options plain) (typeOf resolve schema)
      (typeOf resolve schema.withoutNull) := by
  obtain ⟨kind, info⟩ := schema
  have hnull : Mirrors options (fun type plain => type = makeNullable options plain) (do
        let base ← typeOfKind resolve info.format kind
        if info.nullable then return makeNullable (← LowerM.options) base else return base) (do
        let base ← typeOfKind resolve info.format kind
        if false then return makeNullable (← LowerM.options) base else return base) := by
    refine .bindSame _ fun base => ?_
    rw [if_pos hnullable, if_neg Bool.false_ne_true]
    intro setting hoptions store
    subst hoptions
    exact ⟨.ok rfl, rfl⟩
  cases kind with
  | ref target => exact absurd rfl (hkind target)
  | _ => exact hnull

/-- The same holds of the descriptor, which says so besides. -/
theorem describe_withoutNull (hnullable : schema.info.nullable)
    (hkind : ∀ target, schema.kind ≠ .ref target) :
    Mirrors options (fun descriptor plain => descriptor =
        { plain with typeName := makeNullable options plain.typeName, isNullable := true })
      (describe schema) (describe schema.withoutNull) := by
  obtain ⟨kind, info⟩ := schema
  cases kind with
  | ref target => exact absurd rfl (hkind target)
  | _ =>
    refine (typeOf_withoutNull referenceName hnullable hkind).bind fun type plain htype => .pure ?_
    have hflag : (info.nullable && !false) = true := by rw [hnullable]; rfl
    exact htype ▸ congrArg (TypeDescriptor.ofSchema _ · info) hflag

end Lowering

/-! ## Declarations -/

/-- The declaration gives its type as another one does, made nullable, where the other may be an interface.
They have the same name and dependencies. -/
structure Typing.Declaration.AddsNull (options : Options) (declaration plain : Declaration) : Prop where
  name_eq : declaration.name = plain.name
  dependencies_eq : declaration.dependencies = plain.dependencies
  content : ∃ header name type : String,
    declaration.content = s!"{header}type {name} = {makeNullable options type};" ∧
      (plain.content = s!"{header}type {name} = {type};" ∨
        plain.content = s!"{header}interface {name} {type}")

namespace Lowering

theorem lowerAlias_withoutNull (name : String) (hnullable : schema.info.nullable)
    (hkind : ∀ target, schema.kind ≠ .ref target) :
    Mirrors options (fun declaration plain => declaration.AddsNull options plain ∧
        declaration.name = Name.pascal name) (lowerAlias name schema)
      (lowerAlias name schema.withoutNull) := by
  refine ((describe_withoutNull hnullable hkind).collectDependencies.withSegment _).bind
    fun described plain hdescribed => .readOptions (.pure ?_)
  obtain ⟨descriptor, dependencies⟩ := described
  obtain ⟨hdescriptor, rfl⟩ := hdescribed
  dsimp only at hdescriptor
  subst hdescriptor
  exact ⟨⟨rfl, rfl, _, _, _, rfl, Or.inl rfl⟩, rfl⟩

/-- An enumeration is declared as if it were not nullable. -/
theorem lowerEnum_withoutNull (name : String) (schema : Schema) :
    lowerEnum name schema.withoutNull = lowerEnum name schema := rfl

/-- An interface is declared as if the object were not nullable. -/
theorem declareInterface_withoutNull (name : String) (schema : Schema) :
    declareInterface name schema.withoutNull = declareInterface name schema := rfl

/-! ## Unions -/

/-- A union without members is declared as if it were not nullable. -/
theorem lowerUnion_of_nil (name : String) (hmembers : unionMembersOf schema = []) :
    lowerUnion name schema.withoutNull = lowerUnion name schema := by
  have hmembers' : unionMembersOf schema.withoutNull = [] := hmembers
  unfold lowerUnion
  rw [hmembers, hmembers']

theorem lowerUnion_withoutNull (name : String) (hnullable : schema.info.nullable)
    (hmembers : unionMembersOf schema ≠ []) :
    Mirrors options (fun union plain => union.declaration.AddsNull options plain.declaration ∧
        union.declaration.name = Name.pascal name ∧
          union.memberDeclarations = plain.memberDeclarations ∧ union.functions = plain.functions)
      (lowerUnion name schema) (lowerUnion name schema.withoutNull) := by
  unfold lowerUnion
  refine .withSegment _ ?_
  have hmembers' : unionMembersOf schema.withoutNull = unionMembersOf schema := rfl
  rw [hmembers']
  cases hcases : unionMembersOf schema with
  | nil => exact absurd hcases hmembers
  | cons member rest =>
    refine .bindSame _ fun document => .readOptions (.bindSame _ fun lowered => .pure ?_)
    refine ⟨⟨rfl, rfl, _, _, _, ?_, Or.inl rfl⟩, rfl, rfl, rfl⟩
    rw [unionDeclaration, if_pos hnullable]
    rfl

/-! ## Compositions -/

end Lowering

/-- The body of a composed type is another one, or what that is made nullable. -/
inductive CompositionBody.MayAddNull (options : Options) : CompositionBody → CompositionBody → Prop
  | same (body : CompositionBody) : MayAddNull options body body
  | made (expr : String) : MayAddNull options (.alias (makeNullable options expr)) (.alias expr)

/-- The main declaration of a composition gives its type as that of another one, made nullable. They
agree in the rest, except that a nullable one may lack the validator. -/
structure Composition.AddsNull (options : Options) (result plain : Composition) : Prop where
  typeName_eq : result.typeName = plain.typeName
  dependencies_eq : result.dependencies = plain.dependencies
  utilityTypes_eq : result.utilityTypes = plain.utilityTypes
  intermediates_eq : result.intermediates = plain.intermediates
  circularRefs_eq : result.circularRefs = plain.circularRefs
  helpers : result.helpers <+: plain.helpers
  content : ∃ header name type : String,
    result.content = s!"{header}type {name} = {makeNullable options type};" ∧
      (plain.content = s!"{header}type {name} = {type};" ∨
        plain.content = s!"{header}interface {name} {type}")

namespace Lowering

variable {info : SchemaInfo} {kind : SchemaKind Schema}

theorem composeBody_withoutNull (owner : String) (hnullable : info.nullable)
    (hkind : ∀ target, kind ≠ .ref target) :
    Mirrors options (fun composed plain => composed.1.MayAddNull options plain.1 ∧
        composed.2 = plain.2) (composeBody owner info kind)
      (composeBody owner { info with nullable := false } kind) := by
  have hsame : ∀ step : LowerM (CompositionBody × CompositionParts),
      Mirrors options (fun composed plain => composed.1.MayAddNull options plain.1 ∧
        composed.2 = plain.2) step step :=
    fun step => .of_forall step fun composed => ⟨.same composed.1, rfl⟩
  have hinline : Mirrors options (fun composed plain => composed.1.MayAddNull options plain.1 ∧
        composed.2 = plain.2)
      (do
        let type ← typeExpression ⟨kind, info⟩
        return (CompositionBody.alias type, ({} : CompositionParts)))
      (do
        let type ← typeExpression ⟨kind, { info with nullable := false }⟩
        return (CompositionBody.alias type, ({} : CompositionParts))) := by
    refine (typeOf_withoutNull referenceName hnullable hkind).bind fun type plain htype => .pure ?_
    exact ⟨htype ▸ .made plain, rfl⟩
  cases kind with
  | ref target => exact absurd rfl (hkind target)
  | allOf members | array items =>
    rw [composeBody, composeBody]
    exact hsame _
  | object shape =>
    obtain ⟨properties, required, additional⟩ := shape
    rw [composeBody, composeBody]
    split
    · exact hinline
    · exact hsame _
  | _ => exact hinline

theorem compositionContent_withoutNull {name : String} {circularRefs : List String}
    {body plain : CompositionBody} (hnullable : info.nullable) (hbody : body.MayAddNull options plain) :
    ∃ header typeName type : String,
      compositionContent options name info circularRefs body =
        s!"{header}type {typeName} = {makeNullable options type};" ∧
      (compositionContent options name { info with nullable := false } circularRefs plain =
          s!"{header}type {typeName} = {type};" ∨
        compositionContent options name { info with nullable := false } circularRefs plain =
          s!"{header}interface {typeName} {type}") := by
  refine ⟨docComment (compositionDoc options info circularRefs) "" ++ options.exportWord, name, ?_⟩
  cases hbody with
  | made expr =>
    refine ⟨expr, ?_, Or.inl rfl⟩
    simp only [compositionContent, hnullable, makeNullable_makeNullable]
  | same =>
    cases body with
    | members lines properties =>
      refine ⟨s!"\x7b\n{lines}\x7d", ?_, Or.inr ?_⟩
      · simp only [compositionContent, hnullable]
      · apply String.ext
        simp only [compositionContent, toString, String.toList_append, List.append_assoc]
        rfl
    | _ expr =>
      refine ⟨expr, ?_, Or.inl rfl⟩
      simp only [compositionContent, hnullable]

/-- What a schema flattens to does not depend on whether it is nullable. -/
theorem flatten?_withoutNull (document : Document) (hkind : ∀ target, schema.kind ≠ .ref target) :
    document.flatten? schema.withoutNull = document.flatten? schema := by
  obtain ⟨kind, info⟩ := schema
  cases kind with
  | ref target => exact absurd rfl (hkind target)
  | _ => rfl

theorem utilityTypesFor_withoutNull (document : Document) (derive : Bool) (name : String)
    (hkind : ∀ target, schema.kind ≠ .ref target) :
    utilityTypesFor document options derive name schema.withoutNull =
      utilityTypesFor document options derive name schema := by
  rw [utilityTypesFor, utilityTypesFor, DerivedTypes.aliases, DerivedTypes.aliases,
    flatten?_withoutNull document hkind]

theorem structuralHelpersFor_withoutNull (document : Document) (derive : Bool) (name : String)
    (hkind : ∀ target, schema.kind ≠ .ref target) :
    structuralHelpersFor document options derive name schema.withoutNull =
      structuralHelpersFor document options derive name schema := by
  rw [structuralHelpersFor, structuralHelpersFor, DerivedTypes.functions, DerivedTypes.functions,
    flatten?_withoutNull document hkind]

theorem composeUnion_withoutNull (derive : Bool) (name : String) (hnullable : schema.info.nullable)
    (hkind : ∀ target, schema.kind ≠ .ref target) (hmembers : unionMembersOf schema ≠ []) :
    Mirrors options (fun result plain => result.AddsNull options plain ∧ result.typeName = name)
      (composeUnion derive name schema) (composeUnion derive name schema.withoutNull) := by
  refine (lowerUnion_withoutNull _ hnullable hmembers).bind fun union plain hdeclared => ?_
  obtain ⟨hnull, -, hmembers, hfunctions⟩ := hdeclared
  refine .bindSame _ fun document => .readOptions (.pure ⟨?_, rfl⟩)
  exact {
    typeName_eq := rfl
    dependencies_eq := hnull.dependencies_eq
    utilityTypes_eq := (utilityTypesFor_withoutNull document derive name hkind).symm
    intermediates_eq := hmembers
    circularRefs_eq := rfl
    helpers := by
      dsimp only
      exact hfunctions ▸ List.prefix_rfl
    content := hnull.content }

theorem assemble_withoutNull (document : Document) (derive : Bool) (name : String)
    (parts : CompositionParts) (dependencies : List String) {body plain : CompositionBody}
    (hnullable : schema.info.nullable) (hkind : ∀ target, schema.kind ≠ .ref target)
    (hbody : body.MayAddNull options plain) :
    (assemble document options derive name schema body parts dependencies).AddsNull options
      (assemble document options derive name schema.withoutNull plain parts dependencies) where
  typeName_eq := rfl
  dependencies_eq := rfl
  utilityTypes_eq := (utilityTypesFor_withoutNull document derive name hkind).symm
  intermediates_eq := rfl
  circularRefs_eq := rfl
  helpers := by
    have hvalidator : compositionValidator? options name schema.info body = none := by
      cases body <;> simp only [compositionValidator?, hnullable]
    dsimp only [assemble]
    rw [hvalidator, structuralHelpersFor_withoutNull document derive name hkind, Option.map_none,
      Option.toList_none, List.append_nil]
    exact List.prefix_append _ _
  content := compositionContent_withoutNull hnullable hbody

/-- A composed schema is declared as what it is without null, made nullable. -/
theorem compose_withoutNull (derive : Bool) (name : String) (hnullable : schema.info.nullable)
    (hkind : ∀ target, schema.kind ≠ .ref target) (hmembers : schema.isEmptyUnion = false) :
    Mirrors options (fun result plain => result.AddsNull options plain ∧
        result.typeName = Name.pascal name) (compose derive name schema)
      (compose derive name schema.withoutNull) := by
  obtain ⟨kind, info⟩ := schema
  cases kind with
  | ref target => exact absurd rfl (hkind target)
  | oneOf members | anyOf members =>
    refine composeUnion_withoutNull derive _ hnullable hkind fun hnil => ?_
    obtain rfl : members = [] := hnil
    cases hmembers
  | _ =>
    refine .withSegment _ ((composeBody_withoutNull _ hnullable hkind).collectDependencies.bind
      fun composed plain hcomposed => .bindSame _ fun document => .readOptions (.pure ⟨?_, rfl⟩))
    obtain ⟨⟨body, parts⟩, dependencies⟩ := composed
    obtain ⟨⟨hbody, rfl⟩, rfl⟩ := hcomposed
    exact assemble_withoutNull document derive _ _ _ hnullable hkind hbody

theorem composeUnion_of_nil (derive : Bool) (name : String)
    (hkind : ∀ target, schema.kind ≠ .ref target) (hmembers : unionMembersOf schema = []) :
    Mirrors options Eq (composeUnion derive name schema)
      (composeUnion derive name schema.withoutNull) := by
  rw [composeUnion, composeUnion, lowerUnion_of_nil _ hmembers]
  refine .bindSame _ fun union => .bindSame _ fun document => .readOptions (.pure ?_)
  rw [utilityTypesFor_withoutNull document derive _ hkind]
  rfl

/-- A union without members is composed as if it were not nullable. -/
theorem compose_of_isEmptyUnion (derive : Bool) (name : String) (hmembers : schema.isEmptyUnion) :
    Mirrors options Eq (compose derive name schema) (compose derive name schema.withoutNull) := by
  have hnil := Schema.kind_of_isEmptyUnion hmembers
  obtain ⟨kind, info⟩ := schema
  rcases hnil with rfl | rfl <;>
    exact composeUnion_of_nil derive _ (by rintro _ ⟨⟩) rfl

end Lowering

/-! ## Places -/

/-- A place in which a schema stands. -/
inductive Site where
  /-- A type expression, with references resolved in whatever way. -/
  | inline (resolve : String → LowerM String)
  /-- A schema declared under a type name, by the operation that its kind selects. -/
  | named (typeName : String)
  /-- A member of a union, which may have a discriminator. -/
  | member (union : String) (discriminator : Option ResolvedDiscriminator) (index : Nat)
  /-- A member of a composition. -/
  | part (owner : String) (index : Nat) (parts : CompositionParts)
  /-- A property of a composition. -/
  | property (owner name : String) (parts : CompositionParts)
  /-- The items of an array that is composed. -/
  | items (owner : String)

namespace Site

/-- What stands for the schema in the place, and the declarations so far. -/
def render (schema : Schema) : Site → LowerM (String × List Declaration)
  | inline resolve => (·, []) <$> typeOf resolve schema
  | named typeName => (typeName, ·) <$> declare typeName schema
  | member union discriminator index =>
    (fun lowered => (lowered.1.typeName, lowered.2)) <$> lowerMember union discriminator index schema
  | part owner index parts => (fun lowered => (lowered.1, lowered.2.intermediates)) <$>
    composeMember owner index schema (fun name => compose false name schema) parts
  | property owner name parts => (fun lowered => (lowered.1.typeName, lowered.2.intermediates)) <$>
    composeDescriptor owner name schema (fun name => compose false name schema) parts
  | items owner => (fun lowered => (lowered.1, lowered.2.intermediates)) <$>
    composeItems owner schema fun name => compose false name schema

/-- Whether the schema is declared there as an enumeration, an interface, or a union without members. Null
is lost then. -/
def losesNull (options : Options) (schema : Schema) : Site → Bool
  | inline _ => false
  | named _ => match Operation.select schema with
    | .enum | .interface => true
    | .union => schema.isEmptyUnion
    | .compose | .alias => false
  | member _ discriminator _ =>
    schema.isObject && (discriminator.isSome || !isInline options schema)
  | part .. => schema.isEmptyUnion && !isInline options schema
  | property .. | items _ => schema.isEmptyUnion

end Site

/-- What stands for a schema is a type expression made nullable, or it is a name under which the same type
is declared, made nullable. The other declarations are the same, but for a validator. -/
inductive RenderingAddsNull (options : Options) :
    String × List Declaration → String × List Declaration → Prop
  | inline (plain : String) (declarations : List Declaration) :
    RenderingAddsNull options (makeNullable options plain, declarations) (plain, declarations)
  | declared {name : String} {before after more : List Declaration} {declaration plain : Declaration}
    (h : declaration.AddsNull options plain) (hname : declaration.name = Name.pascal name) :
    RenderingAddsNull options (name, before ++ declaration :: after)
      (name, before ++ plain :: (after ++ more))

/-- The declarations of a composition that adds null. -/
theorem Composition.AddsNull.declarations {result plain : Composition}
    (h : result.AddsNull options plain) : ∃ before declaration plain' after more,
      result.declarations = before ++ declaration :: after ∧
        plain.declarations = before ++ plain' :: (after ++ more) ∧
          declaration.AddsNull options plain' ∧ declaration.name = result.typeName := by
  obtain ⟨more, hmore⟩ := h.helpers
  have hderived : result.derived = plain.derived := by
    funext kind content
    simp only [Composition.derived, h.typeName_eq]
  refine ⟨result.intermediates, ⟨result.typeName, result.mainKind, result.content,
    result.dependencies⟩, ⟨plain.typeName, plain.mainKind, plain.content, plain.dependencies⟩,
    result.utilityTypes.map (result.derived .typeAlias) ++ result.helpers.map (result.derived .function),
    more.map (plain.derived .function), rfl, ?_, ⟨h.typeName_eq, h.dependencies_eq, h.content⟩, rfl⟩
  rw [Composition.declarations, ← hmore, h.intermediates_eq, h.utilityTypes_eq, hderived,
    List.map_append, List.append_assoc]

namespace Lowering

/-! ### What is not a reference -/

section

variable {compose : String → LowerM Composition} (hkind : ∀ target, schema.kind ≠ .ref target)

include hkind

theorem plainMember_of_ne_ref (union : String) (index : Nat) : plainMember union index schema = (do
    if isInline (← LowerM.options) schema then inlineMember (memberName union index) none schema
    else
      let name ← claimName (memberName union index)
      let declarations ←
        if schema.isObject then declareInterface name schema
        else (fun declaration => [declaration]) <$> lowerAlias name schema
      return (⟨name, none, schema, false, name⟩, declarations)) := by
  obtain ⟨kind, info⟩ := schema
  cases kind with
  | ref target => exact absurd rfl (hkind target)
  | _ => rfl

theorem composeMember_of_ne_ref (owner : String) (index : Nat) (parts : CompositionParts) :
    composeMember owner index schema compose parts = descend (memberSegment index) (do
      if isInline (← LowerM.options) schema then return (← typeExpression schema, parts)
      else declarePart compose s!"{owner}Part{index + 1}" parts) := by
  obtain ⟨kind, info⟩ := schema
  cases kind with
  | ref target => exact absurd rfl (hkind target)
  | _ => rfl

theorem composeDescriptor_of_ne_ref (owner name : String) (parts : CompositionParts) :
    composeDescriptor owner name schema compose parts = (do
      if schema.isComposite then
        let (type, parts) ← descend name (declarePart compose s!"{owner}{Name.pascal name}" parts)
        return (.ofSchema type schema.info.nullable schema.info, parts)
      else return (← withSegment name (describe schema), parts)) := by
  obtain ⟨kind, info⟩ := schema
  cases kind with
  | ref target => exact absurd rfl (hkind target)
  | _ => rfl

theorem composeItems_of_ne_ref (owner : String) : composeItems owner schema compose = (do
    if schema.isComposite || !isInline (← LowerM.options) schema then
      descend "items" (declarePart compose s!"{owner}Item" {})
    else return (← typeExpression schema, {})) := by
  obtain ⟨kind, info⟩ := schema
  cases kind with
  | ref target => exact absurd rfl (hkind target)
  | _ => rfl

end

/-! ### Whole declarations -/

theorem aliasOnly_addsNull (name : String) (hnullable : schema.info.nullable)
    (hkind : ∀ target, schema.kind ≠ .ref target) :
    Mirrors options (fun declarations plain => RenderingAddsNull options (name, declarations)
        (name, plain)) ((fun declaration => [declaration]) <$> lowerAlias name schema)
      ((fun declaration => [declaration]) <$> lowerAlias name schema.withoutNull) := by
  refine (lowerAlias_withoutNull name hnullable hkind).map fun declaration plain h => ?_
  show RenderingAddsNull options (name, [] ++ declaration :: []) (name, [] ++ plain :: ([] ++ []))
  exact .declared h.1 h.2

theorem unionDeclarations_addsNull (name : String) (hnullable : schema.info.nullable)
    (hmembers : unionMembersOf schema ≠ []) :
    Mirrors options (fun declarations plain => RenderingAddsNull options (name, declarations)
        (name, plain)) (LoweredUnion.declarations <$> lowerUnion name schema)
      (LoweredUnion.declarations <$> lowerUnion name schema.withoutNull) := by
  refine (lowerUnion_withoutNull name hnullable hmembers).map fun union plain h => ?_
  obtain ⟨hnull, hname, hmembers, hfunctions⟩ := h
  have hadds : RenderingAddsNull options
      (name, plain.memberDeclarations ++ union.declaration :: plain.functions)
      (name, plain.memberDeclarations ++ plain.declaration :: (plain.functions ++ [])) :=
    .declared hnull hname
  rw [List.append_nil] at hadds
  rwa [LoweredUnion.declarations, LoweredUnion.declarations, hmembers, hfunctions]

theorem compositionDeclarations_addsNull (derive : Bool) (name : String)
    (hnullable : schema.info.nullable) (hkind : ∀ target, schema.kind ≠ .ref target)
    (hmembers : schema.isEmptyUnion = false) :
    Mirrors options (fun declarations plain => RenderingAddsNull options (name, declarations)
        (name, plain)) (Composition.declarations <$> compose derive name schema)
      (Composition.declarations <$> compose derive name schema.withoutNull) := by
  refine (compose_withoutNull derive name hnullable hkind hmembers).map fun result plain h => ?_
  obtain ⟨before, declaration, plain', after, more, hlist, hlist', hnull, hname⟩ := h.1.declarations
  rw [hlist, hlist']
  exact .declared hnull (hname.trans h.2)

/-! ### Members of unions -/

theorem inlineMember_addsNull (tag : String) (value : Option Json) (hnullable : schema.info.nullable)
    (hkind : ∀ target, schema.kind ≠ .ref target) :
    Mirrors options (fun lowered plain => RenderingAddsNull options (lowered.1.typeName, lowered.2)
        (plain.1.typeName, plain.2)) (inlineMember tag value schema)
      (inlineMember tag value schema.withoutNull) := by
  refine (typeOf_withoutNull referenceName hnullable hkind).bind fun type plain htype => .pure ?_
  exact htype ▸ .inline plain []

theorem discriminatedMember_same (union property : String) (index : Nat) (value : Option Json)
    (hobject : schema.isObject) :
    Mirrors options (fun lowered plain => lowered.1.typeName = plain.1.typeName ∧ lowered.2 = plain.2)
      (discriminatedMember union property index value schema)
      (discriminatedMember union property index value schema.withoutNull) := by
  obtain ⟨kind, info⟩ := schema
  cases kind with
  | object shape => exact .bindSame _ fun name => .bindSame _ fun declarations => .pure ⟨rfl, rfl⟩
  | _ => cases hobject

theorem plainMember_same (union : String) (index : Nat) (hobject : schema.isObject)
    (hinline : isInline options schema = false) :
    Mirrors options (fun lowered plain => lowered.1.typeName = plain.1.typeName ∧ lowered.2 = plain.2)
      (plainMember union index schema) (plainMember union index schema.withoutNull) := by
  have hinline' : isInline options schema.withoutNull = false := hinline
  obtain ⟨kind, info⟩ := schema
  cases kind with
  | object shape =>
    refine .readOptions ?_
    dsimp only
    rw [hinline, hinline']
    exact .bindSame _ fun name => .bindSame _ fun declarations => .pure ⟨rfl, rfl⟩
  | _ => cases hobject

theorem discriminatedMember_addsNull (union property : String) (index : Nat) (value : Option Json)
    (hnullable : schema.info.nullable) (hkind : ∀ target, schema.kind ≠ .ref target)
    (hobject : schema.isObject = false) :
    Mirrors options (fun lowered plain => RenderingAddsNull options (lowered.1.typeName, lowered.2)
        (plain.1.typeName, plain.2)) (discriminatedMember union property index value schema)
      (discriminatedMember union property index value schema.withoutNull) := by
  have hinline : Mirrors options _ _ _ := inlineMember_addsNull (memberName union index) value hnullable hkind
  obtain ⟨kind, info⟩ := schema
  cases kind with
  | ref target => exact absurd rfl (hkind target)
  | object shape => cases hobject
  | _ => exact hinline

theorem plainMember_addsNull (union : String) (index : Nat) (hnullable : schema.info.nullable)
    (hkind : ∀ target, schema.kind ≠ .ref target)
    (hkept : (schema.isObject && !isInline options schema) = false) :
    Mirrors options (fun lowered plain => RenderingAddsNull options (lowered.1.typeName, lowered.2)
        (plain.1.typeName, plain.2)) (plainMember union index schema)
      (plainMember union index schema.withoutNull) := by
  have hkind' : ∀ target, schema.withoutNull.kind ≠ .ref target := hkind
  rw [plainMember_of_ne_ref hkind, plainMember_of_ne_ref hkind']
  refine .readOptions ?_
  have hinline' : isInline options schema.withoutNull = isInline options schema := rfl
  rw [hinline']
  cases hinline : isInline options schema with
  | true => exact inlineMember_addsNull _ none hnullable hkind
  | false =>
    have hobject : schema.isObject = false := by simpa [hinline] using hkept
    have hobject' : schema.withoutNull.isObject = false := hobject
    rw [hobject, hobject']
    refine .bindSame _ fun name => ?_
    exact (aliasOnly_addsNull name hnullable hkind).bind fun declarations plain h => .pure h

/-! ### Parts declared on their own -/

section

variable {compose compose' : String → LowerM Composition}

theorem declarePart_same (base : String) (parts : CompositionParts)
    (h : ∀ name, Mirrors options Eq (compose name) (compose' name)) :
    Mirrors options Eq (declarePart compose base parts) (declarePart compose' base parts) :=
  .bindSame _ fun name => (h name).bind fun nested plain hnested => .pure (by rw [hnested])

theorem declarePart_addsNull (base : String) (parts : CompositionParts)
    (h : ∀ name, Mirrors options (fun result plain => result.AddsNull options plain ∧
      result.typeName = Name.pascal name) (compose name) (compose' name)) :
    Mirrors options (fun part plain => RenderingAddsNull options (part.1, part.2.intermediates)
        (plain.1, plain.2.intermediates))
      (declarePart compose base parts) (declarePart compose' base parts) := by
  refine .bindSame _ fun name => (h name).bind fun nested plain hnested => .pure ?_
  obtain ⟨hnested, hname⟩ := hnested
  obtain ⟨before, declaration, plain', after, more, hlist, hlist', hnull, hdeclared⟩ :=
    hnested.declarations
  rw [CompositionParts.absorb, CompositionParts.absorb, hlist, hlist', ← List.append_assoc,
    ← List.append_assoc]
  exact .declared hnull (hdeclared.trans hname)

end

/-! ### Parts that stand inline -/

theorem partInline_addsNull (parts : CompositionParts) (hnullable : schema.info.nullable)
    (hkind : ∀ target, schema.kind ≠ .ref target) :
    Mirrors options (fun part plain => RenderingAddsNull options (part.1, part.2.intermediates)
        (plain.1, plain.2.intermediates))
      (do return (← typeExpression schema, parts))
      (do return (← typeExpression schema.withoutNull, parts)) := by
  refine (typeOf_withoutNull referenceName hnullable hkind).bind fun type plain htype => .pure ?_
  exact htype ▸ .inline plain parts.intermediates

/-! ### What is declared in a place -/

section

variable {typeName union owner name : String} {discriminator : Option ResolvedDiscriminator} {index : Nat}
  {parts : CompositionParts}

theorem declare_same (hlost : (Site.named typeName).losesNull options schema = true) :
    Mirrors options Eq (declare typeName schema) (declare typeName schema.withoutNull) := by
  have hselect' : Operation.select schema.withoutNull = Operation.select schema := rfl
  rw [declare, declare, hselect']
  cases hselect : Operation.select schema with
  | enum =>
    rw [lowerEnum_withoutNull]
    exact .refl _
  | interface =>
    rw [declareInterface_withoutNull]
    exact .refl _
  | union =>
    simp only [Site.losesNull, hselect] at hlost
    have hmembers : unionMembersOf schema = [] := by
      rcases Schema.kind_of_isEmptyUnion hlost with h | h <;> simp [unionMembersOf, h]
    rw [lowerUnion_of_nil typeName hmembers]
    exact .refl _
  | _ => simp [Site.losesNull, hselect] at hlost

theorem declare_addsNull (hnullable : schema.info.nullable) (hkind : ∀ target, schema.kind ≠ .ref target)
    (hkept : (Site.named typeName).losesNull options schema = false) :
    Mirrors options (fun declarations plain => RenderingAddsNull options (typeName, declarations)
        (typeName, plain)) (declare typeName schema) (declare typeName schema.withoutNull) := by
  have hselect' : Operation.select schema.withoutNull = Operation.select schema := rfl
  rw [declare, declare, hselect']
  cases hselect : Operation.select schema with
  | enum | interface => simp [Site.losesNull, hselect] at hkept
  | union =>
    simp only [Site.losesNull, hselect] at hkept
    exact unionDeclarations_addsNull typeName hnullable (Schema.unionMembersOf_ne_nil hselect hkept)
  | compose =>
    have hmembers := Schema.isEmptyUnion_of_select_compose hselect
    exact compositionDeclarations_addsNull true typeName hnullable hkind hmembers
  | _ => exact aliasOnly_addsNull typeName hnullable hkind

theorem lowerMember_same (hlost : (Site.member union discriminator index).losesNull options schema = true) :
    Mirrors options (fun lowered plain => lowered.1.typeName = plain.1.typeName ∧ lowered.2 = plain.2)
      (lowerMember union discriminator index schema)
      (lowerMember union discriminator index schema.withoutNull) := by
  rw [Site.losesNull, Bool.and_eq_true] at hlost
  obtain ⟨hobject, hdeclared⟩ := hlost
  refine .descend _ ?_
  cases discriminator with
  | some found => exact discriminatedMember_same union found.property index _ hobject
  | none => exact plainMember_same union index hobject (by simpa using hdeclared)

theorem lowerMember_addsNull (hnullable : schema.info.nullable) (hkind : ∀ target, schema.kind ≠ .ref target)
    (hkept : (Site.member union discriminator index).losesNull options schema = false) :
    Mirrors options (fun lowered plain => RenderingAddsNull options (lowered.1.typeName, lowered.2)
        (plain.1.typeName, plain.2)) (lowerMember union discriminator index schema)
      (lowerMember union discriminator index schema.withoutNull) := by
  refine .descend _ ?_
  cases discriminator with
  | some found =>
    exact discriminatedMember_addsNull union found.property index _ hnullable hkind
      (by simpa [Site.losesNull] using hkept)
  | none => exact plainMember_addsNull union index hnullable hkind (by simpa [Site.losesNull] using hkept)

theorem composeMember_same (hlost : (Site.part owner index parts).losesNull options schema = true) :
    Mirrors options Eq (composeMember owner index schema (fun name => compose false name schema) parts)
      (composeMember owner index schema.withoutNull (fun name => compose false name schema.withoutNull)
        parts) := by
  rw [Site.losesNull, Bool.and_eq_true, Bool.not_eq_true'] at hlost
  obtain ⟨hempty, hinline⟩ := hlost
  have hkind := Schema.kind_ne_ref_of_isEmptyUnion hempty
  have hkind' : ∀ target, schema.withoutNull.kind ≠ .ref target := hkind
  have hinline' : isInline options schema.withoutNull = false := hinline
  rw [composeMember_of_ne_ref hkind, composeMember_of_ne_ref hkind']
  refine .descend _ (.readOptions ?_)
  rw [hinline, hinline']
  exact declarePart_same _ parts fun name => compose_of_isEmptyUnion false name hempty

theorem composeMember_addsNull (hnullable : schema.info.nullable) (hkind : ∀ target, schema.kind ≠ .ref target)
    (hkept : (Site.part owner index parts).losesNull options schema = false) :
    Mirrors options (fun part plain => RenderingAddsNull options (part.1, part.2.intermediates)
        (plain.1, plain.2.intermediates))
      (composeMember owner index schema (fun name => compose false name schema) parts)
      (composeMember owner index schema.withoutNull (fun name => compose false name schema.withoutNull)
        parts) := by
  have hkind' : ∀ target, schema.withoutNull.kind ≠ .ref target := hkind
  have hinline' : isInline options schema.withoutNull = isInline options schema := rfl
  rw [composeMember_of_ne_ref hkind, composeMember_of_ne_ref hkind']
  refine .descend _ (.readOptions ?_)
  rw [hinline']
  cases hinline : isInline options schema with
  | true => exact partInline_addsNull parts hnullable hkind
  | false =>
    refine declarePart_addsNull _ parts fun name => ?_
    exact compose_withoutNull false name hnullable hkind (by simpa [Site.losesNull, hinline] using hkept)

theorem composeDescriptor_same (hlost : schema.isEmptyUnion) :
    Mirrors options (fun lowered plain => lowered.1.typeName = plain.1.typeName ∧ lowered.2 = plain.2)
      (composeDescriptor owner name schema (fun name => compose false name schema) parts)
      (composeDescriptor owner name schema.withoutNull (fun name => compose false name schema.withoutNull)
        parts) := by
  have hkind := Schema.kind_ne_ref_of_isEmptyUnion hlost
  have hkind' : ∀ target, schema.withoutNull.kind ≠ .ref target := hkind
  have hcomposite := Schema.isComposite_of_isEmptyUnion hlost
  have hcomposite' : schema.withoutNull.isComposite := hcomposite
  rw [composeDescriptor_of_ne_ref hkind, composeDescriptor_of_ne_ref hkind', if_pos hcomposite,
    if_pos hcomposite']
  refine (Mirrors.descend _ (declarePart_same _ parts fun name =>
    compose_of_isEmptyUnion false name hlost)).bind fun part plain hpart => .pure ?_
  rw [hpart]
  exact ⟨rfl, rfl⟩

theorem composeDescriptor_addsNull (hnullable : schema.info.nullable)
    (hkind : ∀ target, schema.kind ≠ .ref target) (hkept : schema.isEmptyUnion = false) :
    Mirrors options (fun lowered plain => RenderingAddsNull options
        (lowered.1.typeName, lowered.2.intermediates) (plain.1.typeName, plain.2.intermediates))
      (composeDescriptor owner name schema (fun name => compose false name schema) parts)
      (composeDescriptor owner name schema.withoutNull (fun name => compose false name schema.withoutNull)
        parts) := by
  have hkind' : ∀ target, schema.withoutNull.kind ≠ .ref target := hkind
  have hcomposite' : schema.withoutNull.isComposite = schema.isComposite := rfl
  rw [composeDescriptor_of_ne_ref hkind, composeDescriptor_of_ne_ref hkind', hcomposite']
  split
  · refine (Mirrors.descend _ (declarePart_addsNull _ parts fun name =>
      compose_withoutNull false name hnullable hkind hkept)).bind fun part plain hpart => .pure ?_
    exact hpart
  · refine (Mirrors.withSegment _ (describe_withoutNull hnullable hkind)).bind
      fun descriptor plain hdescriptor => .pure ?_
    exact hdescriptor ▸ .inline plain.typeName parts.intermediates

theorem composeItems_same (hlost : schema.isEmptyUnion) :
    Mirrors options Eq (composeItems owner schema fun name => compose false name schema)
      (composeItems owner schema.withoutNull fun name => compose false name schema.withoutNull) := by
  have hkind := Schema.kind_ne_ref_of_isEmptyUnion hlost
  have hkind' : ∀ target, schema.withoutNull.kind ≠ .ref target := hkind
  have hcomposite := Schema.isComposite_of_isEmptyUnion hlost
  have hcomposite' : schema.withoutNull.isComposite := hcomposite
  rw [composeItems_of_ne_ref hkind, composeItems_of_ne_ref hkind']
  refine .readOptions ?_
  rw [hcomposite, hcomposite', Bool.true_or, Bool.true_or, if_pos rfl, if_pos rfl]
  exact .descend _ (declarePart_same _ {} fun name => compose_of_isEmptyUnion false name hlost)

theorem composeItems_addsNull (hnullable : schema.info.nullable) (hkind : ∀ target, schema.kind ≠ .ref target)
    (hkept : schema.isEmptyUnion = false) :
    Mirrors options (fun part plain => RenderingAddsNull options (part.1, part.2.intermediates)
        (plain.1, plain.2.intermediates))
      (composeItems owner schema fun name => compose false name schema)
      (composeItems owner schema.withoutNull fun name => compose false name schema.withoutNull) := by
  have hkind' : ∀ target, schema.withoutNull.kind ≠ .ref target := hkind
  have hinline' : isInline options schema.withoutNull = isInline options schema := rfl
  have hcomposite' : schema.withoutNull.isComposite = schema.isComposite := rfl
  rw [composeItems_of_ne_ref hkind, composeItems_of_ne_ref hkind']
  refine .readOptions ?_
  rw [hinline', hcomposite']
  split
  · exact .descend _ (declarePart_addsNull _ {} fun name =>
      compose_withoutNull false name hnullable hkind hkept)
  · exact partInline_addsNull {} hnullable hkind

end

end Lowering

namespace Site

/-- Where null is lost, the schema is rendered as if it were not nullable. -/
theorem render_of_losesNull (site : Site) (hlost : site.losesNull options schema) :
    Mirrors options Eq (site.render schema) (site.render schema.withoutNull) := by
  cases site with
  | inline resolve => cases hlost
  | named typeName => exact (declare_same hlost).map fun _ _ h => by rw [h]
  | member union discriminator index => exact (lowerMember_same hlost).map fun _ _ h => Prod.ext h.1 h.2
  | part owner index parts => exact (composeMember_same hlost).map fun _ _ h => by rw [h]
  | property owner name parts => exact (composeDescriptor_same hlost).map fun _ _ h => by rw [h.1, h.2]
  | items owner => exact (composeItems_same hlost).map fun _ _ h => by rw [h]

/-- Where null is not lost, what renders the schema is what renders it without null, made nullable. -/
theorem render_of_not_losesNull (site : Site) (hnullable : schema.info.nullable)
    (hkind : ∀ target, schema.kind ≠ .ref target) (hkept : site.losesNull options schema = false) :
    Mirrors options (RenderingAddsNull options) (site.render schema)
      (site.render schema.withoutNull) := by
  cases site with
  | inline resolve =>
    refine (typeOf_withoutNull resolve hnullable hkind).map fun type plain htype => ?_
    exact htype ▸ .inline plain []
  | named typeName => exact (declare_addsNull hnullable hkind hkept).map fun _ _ h => h
  | member union discriminator index => exact (lowerMember_addsNull hnullable hkind hkept).map fun _ _ h => h
  | part owner index parts => exact (composeMember_addsNull hnullable hkind hkept).map fun _ _ h => h
  | property owner name parts => exact (composeDescriptor_addsNull hnullable hkind hkept).map fun _ _ h => h
  | items owner => exact (composeItems_addsNull hnullable hkind hkept).map fun _ _ h => h

/-- In every place, a nullable schema is rendered as without null, made nullable, unless it is declared
there as an enumeration, an interface, or a union without members; then it is rendered as if it were not
nullable. -/
theorem renders_null (site : Site) (options : Options) (hnullable : schema.info.nullable)
    (hkind : ∀ target, schema.kind ≠ .ref target) :
    (site.losesNull options schema = false →
      Mirrors options (RenderingAddsNull options) (site.render schema)
        (site.render schema.withoutNull)) ∧
    (site.losesNull options schema = true →
      Mirrors options Eq (site.render schema) (site.render schema.withoutNull)) :=
  ⟨site.render_of_not_losesNull hnullable hkind, site.render_of_losesNull⟩

/-- A text that may be null. -/
def nullableText : Schema :=
  ⟨.primitive .string, { nullable := true }⟩

/-- Such a text is declared as a text, made nullable. -/
theorem renders_null_of_text : nullableText.info.nullable ∧ (∀ target, nullableText.kind ≠ .ref target) ∧
    Mirrors {} (RenderingAddsNull {}) ((named "Label").render nullableText)
      ((named "Label").render nullableText.withoutNull) := by
  have hkind : ∀ target, nullableText.kind ≠ .ref target := by
    rintro target ⟨⟩
  exact ⟨rfl, hkind, ((named "Label").renders_null {} rfl hkind).1 rfl⟩

/-- A record that may be null is declared as an interface, which null does not have. -/
theorem null_lost_of_record : ∃ document,
    Document.ofJson (.obj [("$defs", .obj [("User", .obj [("type", .str "object"),
      ("properties", .obj [("id", .obj [("type", .str "string")])]), ("nullable", .bool true)])])]) =
        .ok document ∧
    ∃ entry ∈ document.named, entry.schema.info.nullable ∧
      ((lowerNamed entry).runWith { document, options := {} } (.fresh document)).1 = .ok
        [⟨"User", .interface, "export interface User \x7b\n  id?: string;\n\x7d", []⟩] := by
  have hrun : ((Document.ofJson (.obj [("$defs", .obj [("User", .obj [("type", .str "object"),
      ("properties", .obj [("id", .obj [("type", .str "string")])]), ("nullable", .bool true)])])])).toOption.any
        fun document => document.named.head?.any fun entry => entry.schema.info.nullable &&
          ((lowerNamed entry).runWith { document, options := {} } (.fresh document)).1.toOption.any
            fun declarations => decide (declarations = [⟨"User", .interface,
              "export interface User \x7b\n  id?: string;\n\x7d", []⟩])) = true := by decide +kernel
  obtain ⟨document, hdocument, hrun⟩ := Decode.exists_ok_of_any hrun
  obtain ⟨entry, hhead, hentry⟩ := (Option.any_eq_true _ _).mp hrun
  rw [Bool.and_eq_true] at hentry
  obtain ⟨declarations, hlowered, hdeclarations⟩ := Decode.exists_ok_of_any hentry.2
  refine ⟨document, hdocument, entry, List.mem_of_head? hhead, hentry.1, ?_⟩
  rw [hlowered, of_decide_eq_true hdeclarations]

end Site

end SchemaTypings
