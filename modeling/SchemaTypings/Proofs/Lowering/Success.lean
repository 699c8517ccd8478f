import SchemaTypings.Proofs.Document.Mentions
import SchemaTypings.Proofs.Lowering.Moments
import SchemaTypings.Proofs.Lowering.Resolution

/-!
# Which schemas have a type

In a fresh context, a schema has a type exactly if everything that it reaches is as it should be: every
reference resolves, composites are not nested too deep, counted afresh behind each reference, and
nothing is empty that must not be. No reference is lowered twice, and none while it is being resolved;
nevertheless nothing that is reached is passed over (`Document.describe_succeeds_iff`).
-/

namespace SchemaTypings

open LowerM Lowering

namespace Schema

variable {options : Options} {schema : Schema}

theorem refuse_mem_emptinessDemands :
    .refuse ∈ schema.emptinessDemands options ↔
      (options.unions.emptyUnion = .error ∧ (schema.kind = .oneOf [] ∨ schema.kind = .anyOf [])) ∨
        (options.enums.emptyEnum = .error ∧ ∃ shape, schema.kind = .enum shape ∧ shape.values = []) := by
  have hpolicy : ∀ policy : DegeneratePolicy, .refuse ∈ policy.demands ↔ policy = .error := by
    intro policy
    cases policy <;> simp [DegeneratePolicy.demands]
  obtain ⟨kind, info⟩ := schema
  cases kind with
  | oneOf members | anyOf members => cases members <;> simp [emptinessDemands, hpolicy]
  | enum shape =>
    by_cases h : shape.values = [] <;> simp [emptinessDemands, hpolicy, h]
  | _ => simp [emptinessDemands]

/-- A schema at the root of a declaration is not refused if its composites are not nested too deep and
nothing in it is empty that must not be. -/
theorem refuse_not_mem_demands :
    .refuse ∉ schema.demands options 0 ↔ schema.nesting ≤ options.maxDepth ∧
      ∀ other, schema.Contains other → .refuse ∉ other.emptinessDemands options := by
  rw [refuse_mem_demands, not_or, Nat.sub_zero, Nat.not_lt, not_exists]
  simp only [not_and]

end Schema

namespace Document

variable {raw : Json} {document : Document} {options : Options} {schema : Schema}

/-- `document.Reaches schema reached`: the other schema is met from the first one, by going down into
members, items, properties, and what holds for other properties, and by following references. -/
inductive Reaches (document : Document) : Schema → Schema → Prop
  | refl (schema : Schema) : Reaches document schema schema
  | child {schema child reached : Schema} (hchild : child ∈ schema.children)
      (h : Reaches document child reached) : Reaches document schema reached
  | target {schema target reached : Schema} {reference : String}
      (hkind : schema.kind = .ref reference) (htarget : document.resolve? reference = some target)
      (h : Reaches document target reached) : Reaches document schema reached

/-- What a schema needs to have a type. -/
structure Typable (document : Document) (options : Options) (schema : Schema) : Prop where
  /-- Every reference that is reached resolves. -/
  resolves : ∀ reached reference, document.Reaches schema reached → reached.kind = .ref reference →
    ∃ target, document.resolve? reference = some target
  /-- Composites are not nested deeper in the schema than the options allow. -/
  nesting : schema.nesting ≤ options.maxDepth
  /-- Nor are they in the target of a reference that is reached. -/
  targetNesting : ∀ reached reference target, document.Reaches schema reached →
    reached.kind = .ref reference → document.resolve? reference = some target →
      target.nesting ≤ options.maxDepth
  /-- No enumeration that is reached is empty, if that fails. -/
  enums : options.enums.emptyEnum = .error → ∀ reached shape, document.Reaches schema reached →
    reached.kind = .enum shape → shape.values ≠ []
  /-- No union that is reached is empty, if that fails. -/
  unions : options.unions.emptyUnion = .error → ∀ reached, document.Reaches schema reached →
    reached.kind ≠ .oneOf [] ∧ reached.kind ≠ .anyOf []

/-! ## Reaching by references -/

theorem Reaches.trans {between reached : Schema} (h : document.Reaches schema between)
    (h' : document.Reaches between reached) : document.Reaches schema reached := by
  induction h with
  | refl => exact h'
  | child hchild _ ih => exact .child hchild (ih h')
  | target hkind htarget _ ih => exact .target hkind htarget (ih h')

theorem Reaches.of_contains {other : Schema} (h : schema.Contains other) :
    document.Reaches schema other := by
  induction h with
  | refl => exact .refl _
  | step hchild _ ih => exact .child hchild ih

theorem Reaches.of_leads {known : String → Prop} {first last : String}
    (h : document.Leads known first last) (hfirst : schema.Mentions first) :
    ∃ reached, document.Reaches schema reached ∧ reached.kind = .ref last := by
  induction h generalizing schema with
  | refl =>
    obtain ⟨other, hother, hkind⟩ := hfirst
    exact ⟨other, .of_contains hother, hkind⟩
  | step _ htarget hnext _ ih =>
    obtain ⟨other, hother, hkind⟩ := hfirst
    obtain ⟨reached, hreached, hlast⟩ := ih hnext
    exact ⟨reached, (Reaches.of_contains hother).trans (.target hkind htarget hreached), hlast⟩

/-- What is reached stands in the schema, or in the target of a reference that it leads to. -/
theorem Reaches.cases_leads {reached : Schema} (h : document.Reaches schema reached) :
    schema.Contains reached ∨ ∃ first last target, schema.Mentions first ∧
      document.Leads (fun _ => False) first last ∧ document.resolve? last = some target ∧
        target.Contains reached := by
  induction h with
  | refl => exact Or.inl (.refl _)
  | child hchild _ ih =>
    rcases ih with h | ⟨first, last, target, hfirst, hleads, htarget, h⟩
    · exact Or.inl (.step hchild h)
    · exact Or.inr ⟨first, last, target, .of_child hchild hfirst, hleads, htarget, h⟩
  | @target schema target reached reference hkind htarget _ ih =>
    have hmention : schema.Mentions reference := ⟨schema, .refl _, hkind⟩
    rcases ih with h | ⟨first, last, found, hfirst, hleads, hfound, h⟩
    · exact Or.inr ⟨reference, reference, target, hmention, .refl id, htarget, h⟩
    · exact Or.inr ⟨reference, last, found, hmention, .step id htarget hfirst hleads, hfound, h⟩

/-! ## Granted demands -/

theorem typable_iff : document.Typable options schema ↔ schema.nesting ≤ options.maxDepth ∧
    (∀ reached, document.Reaches schema reached → .refuse ∉ reached.emptinessDemands options) ∧
      ∀ reached reference, document.Reaches schema reached → reached.kind = .ref reference →
        ∃ target, document.resolve? reference = some target ∧
          target.nesting ≤ options.maxDepth := by
  constructor
  · intro h
    refine ⟨h.nesting, fun reached hreached hrefuse => ?_, fun reached reference hreached hkind => ?_⟩
    · rcases Schema.refuse_mem_emptinessDemands.mp hrefuse with ⟨hpolicy, hempty⟩ | ⟨hpolicy, hempty⟩
      · have := h.unions hpolicy reached hreached
        exact hempty.elim this.1 this.2
      · obtain ⟨shape, hkind, hvalues⟩ := hempty
        exact h.enums hpolicy reached shape hreached hkind hvalues
    · obtain ⟨target, htarget⟩ := h.resolves reached reference hreached hkind
      exact ⟨target, htarget, h.targetNesting reached reference target hreached hkind htarget⟩
  · rintro ⟨hnesting, hempty, htargets⟩
    have hrefuse := fun reached hreached h =>
      hempty reached hreached (Schema.refuse_mem_emptinessDemands.mpr h)
    exact {
      resolves := fun reached reference hreached hkind =>
        (htargets reached reference hreached hkind).imp fun _ => And.left
      nesting := hnesting
      targetNesting := fun reached reference target hreached hkind htarget => by
        obtain ⟨found, hfound, h⟩ := htargets reached reference hreached hkind
        exact Option.some.inj (hfound.symm.trans htarget) ▸ h
      enums := fun hpolicy reached shape hreached hkind hvalues =>
        hrefuse reached hreached (Or.inr ⟨hpolicy, shape, hkind, hvalues⟩)
      unions := fun hpolicy reached hreached =>
        ⟨fun h => hrefuse reached hreached (Or.inl ⟨hpolicy, Or.inl h⟩),
          fun h => hrefuse reached hreached (Or.inl ⟨hpolicy, Or.inr h⟩)⟩ }

/-- The demands of a schema are granted where nothing is known if the schema has a type, and only
then. -/
theorem typable_iff_grants : document.Typable options schema ↔
    ∀ demand ∈ schema.demands options 0, document.Grants options (fun _ => False) demand := by
  rw [typable_iff]
  constructor
  · rintro ⟨hnesting, hempty, htargets⟩ demand hdemand
    cases demand with
    | refuse =>
      refine Schema.refuse_not_mem_demands.mpr ⟨hnesting, fun other hother => ?_⟩ hdemand
      exact hempty other (.of_contains hother)
    | follow first =>
      intro last hleads
      obtain ⟨reached, hreached, hkind⟩ :=
        Reaches.of_leads hleads (Schema.follow_mem_demands.mp hdemand)
      obtain ⟨target, htarget, hnesting⟩ := htargets reached last hreached hkind
      have hfine : .refuse ∉ target.demands options 0 :=
        Schema.refuse_not_mem_demands.mpr ⟨hnesting, fun other hother =>
          hempty other (hreached.trans (.target hkind htarget (.of_contains hother)))⟩
      exact not_obstacle_iff.mpr ⟨target, htarget, hfine⟩
  · intro hgrants
    have hfine := Schema.refuse_not_mem_demands.mp fun h => hgrants .refuse h
    have hleads : ∀ first last, schema.Mentions first →
        document.Leads (fun _ => False) first last → ¬document.Obstacle options last :=
      fun first last hfirst => hgrants (.follow first) (Schema.follow_mem_demands.mpr hfirst) last
    refine ⟨hfine.1, fun reached hreached => ?_, fun reached reference hreached hkind => ?_⟩
    · rcases hreached.cases_leads with h | ⟨first, last, target, hfirst, hlast, htarget, h⟩
      · exact hfine.2 reached h
      · obtain ⟨found, hfound, hfine⟩ := not_obstacle_iff.mp (hleads first last hfirst hlast)
        obtain rfl := Option.some.inj (htarget.symm.trans hfound)
        exact (Schema.refuse_not_mem_demands.mp hfine).2 reached h
    · have hlast : ∃ first, schema.Mentions first ∧
          document.Leads (fun _ => False) first reference := by
        rcases hreached.cases_leads with h | ⟨first, last, target, hfirst, hlast, htarget, h⟩
        · exact ⟨reference, ⟨reached, h, hkind⟩, .refl id⟩
        · exact ⟨first, hfirst, hlast.trans (.step id htarget ⟨reached, h, hkind⟩ (.refl id))⟩
      obtain ⟨first, hfirst, hlast⟩ := hlast
      obtain ⟨target, htarget, hfine⟩ := not_obstacle_iff.mp (hleads first reference hfirst hlast)
      exact ⟨target, htarget, (Schema.refuse_not_mem_demands.mp hfine).1⟩

/-- A schema can be described in a fresh context if everything it reaches is as it should be, and only
then. -/
theorem describe_succeeds_iff (h : ofJson raw = .ok document) (options : Options) (schema : Schema) :
    (∃ descriptor, (Context.run (describe schema) (.fresh document options)).1 = .ok descriptor) ↔
      document.Typable options schema := by
  have hdescribe : Meets document options [] 0 (describe schema) (schema.demands options 0) :=
    (Meets.rules (local_of_ofJson h)).describe schema
  have hmeets := hdescribe.succeeds_iff [] (.fresh document)
  have hknown : (fun known => known ∈ [] ∨ (Store.fresh document).Records known) = fun _ => False := by
    funext known
    simp [Store.fresh, Store.Records]
  rw [hknown, ← typable_iff_grants] at hmeets
  rw [← hmeets, Context.run_eq]
  constructor
  · rintro ⟨descriptor, hrun⟩
    exact ⟨descriptor, _, Prod.ext hrun rfl⟩
  · rintro ⟨descriptor, after, hrun⟩
    exact ⟨descriptor, congrArg Prod.fst hrun⟩

/-- A list whose items refer back to it has a type. -/
theorem typable_of_cycle : ∃ document,
    ofJson (.obj [("definitions", .obj [("List", .obj [("items", .obj [("$ref",
      .str "#/definitions/List")])])])]) = .ok document ∧
        document.Typable {} ⟨.ref "#/definitions/List", {}⟩ := by
  have hrun : ((ofJson (.obj [("definitions", .obj [("List", .obj [("items", .obj [("$ref",
      .str "#/definitions/List")])])])])).toOption.any fun document =>
        (Context.run (describe ⟨.ref "#/definitions/List", {}⟩) (.fresh document {})).1.isOk) = true := by
    decide +kernel
  obtain ⟨document, hdocument, hrun⟩ := Decode.exists_ok_of_any hrun
  refine ⟨document, hdocument, (describe_succeeds_iff hdocument {} _).mp ?_⟩
  cases hresult : (Context.run (describe ⟨.ref "#/definitions/List", {}⟩) (.fresh document {})).1 with
  | ok descriptor => exact ⟨descriptor, rfl⟩
  | error error => simp [hresult, Except.isOk, Except.toBool] at hrun

end Document

end SchemaTypings
