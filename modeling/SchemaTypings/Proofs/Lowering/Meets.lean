import SchemaTypings.Proofs.Document.Obstacle
import SchemaTypings.Proofs.Lowering.InlineRules
import SchemaTypings.Proofs.Lowering.Reference

/-!
# Steps that meet their demands

A step meets its demands if it succeeds where nothing stands in their way, and only there. References
that are being resolved or recorded are not followed again, so what a success says of them is little:
that nothing was lost, and that what was recorded anew reaches a schema that has a type, with every
reference in it recorded or being resolved (`Explores`). A demand that is met is granted for that reason
(`Meets.succeeds_iff`).
-/

namespace SchemaTypings

open LowerM

/-! ## What success leaves behind -/

/-- From a store to the one after: nothing recorded is lost, and references that are new and not being
resolved reach a schema that has a type, where every reference is recorded or being resolved. -/
structure Explores (document : Document) (options : Options) (visited : List String)
    (store after : Store) : Prop where
  keeps : ∀ reference, store.Records reference → after.Records reference
  sound : ∀ reference, after.Records reference → ¬store.Records reference → reference ∉ visited →
    ∃ target, document.resolve? reference = some target ∧ .refuse ∉ target.demands options 0 ∧
      ∀ next, target.Mentions next → next ∈ visited ∨ after.Records next

namespace Explores

variable {document : Document} {options : Options} {visited : List String}
  {store between after : Store}

theorem of_types_eq (h : after.types = store.types) :
    Explores document options visited store after := by
  have hrecords : ∀ reference, after.Records reference ↔ store.Records reference := by
    simp [Store.Records, h]
  exact ⟨fun reference => (hrecords reference).mpr,
    fun reference hafter hstore => absurd ((hrecords reference).mp hafter) hstore⟩

theorem trans (h : Explores document options visited store between)
    (h' : Explores document options visited between after) :
    Explores document options visited store after where
  keeps reference hstore := h'.keeps reference (h.keeps reference hstore)
  sound reference hafter hstore hvisited := by
    by_cases hbetween : between.Records reference
    · obtain ⟨target, htarget, hfine, hnext⟩ := h.sound reference hbetween hstore hvisited
      exact ⟨target, htarget, hfine, fun next hmention =>
        (hnext next hmention).imp_right (h'.keeps next)⟩
    · exact h'.sound reference hafter hbetween hvisited

/-- What was explored is no obstacle, and leads to none. -/
theorem grants {reference : String} (h : Explores document options visited store after)
    (hmet : reference ∈ visited ∨ after.Records reference) :
    document.Grants options (fun known => known ∈ visited ∨ store.Records known)
      (.follow reference) := by
  intro last hleads
  induction hleads with
  | refl hnew =>
    obtain ⟨target, htarget, hfine, -⟩ := h.sound _ (hmet.resolve_left fun h => hnew (Or.inl h))
      (fun h => hnew (Or.inr h)) fun h => hnew (Or.inl h)
    exact Document.not_obstacle_iff.mpr ⟨target, htarget, hfine⟩
  | step hnew htarget hnext _ ih =>
    obtain ⟨target, htarget', -, hmentions⟩ :=
      h.sound _ (hmet.resolve_left fun h => hnew (Or.inl h)) (fun h => hnew (Or.inr h))
        fun h => hnew (Or.inl h)
    obtain rfl := Option.some.inj (htarget.symm.trans htarget')
    exact ih (hmentions _ hnext)

/-- A reference is left whose target was explored while it was being resolved. Meanwhile nothing was
recorded that was not, except the reference itself. -/
theorem leave {reference : String} {target : Schema} {before inner : Store}
    (h : Explores document options (visited ++ [reference]) before inner)
    (hkeeps : ∀ other, store.Records other → before.Records other)
    (hbefore : ∀ other, before.Records other → store.Records other ∨ other = reference)
    (hafter : ∀ other, after.Records other ↔ inner.Records other ∨ other = reference)
    (htarget : document.resolve? reference = some target)
    (hfine : .refuse ∉ target.demands options 0)
    (hmet : ∀ next, target.Mentions next → next ∈ visited ++ [reference] ∨ inner.Records next) :
    Explores document options visited store after := by
  have hmentions : ∀ next, next ∈ visited ++ [reference] ∨ inner.Records next →
      next ∈ visited ∨ after.Records next := by
    intro next hnext
    rw [List.mem_append, List.mem_singleton, or_assoc] at hnext
    exact hnext.imp_right fun h => (hafter next).mpr h.symm
  refine ⟨fun other hother => (hafter other).mpr (Or.inl (h.keeps other (hkeeps other hother))), ?_⟩
  intro other hother hstore hvisited
  by_cases heq : other = reference
  · subst heq
    exact ⟨target, htarget, hfine, fun next hnext => hmentions next (hmet next hnext)⟩
  · obtain ⟨found, hfound, hfound', hnext⟩ := h.sound other
      (((hafter other).mp hother).resolve_right heq)
      (fun h => (hbefore other h).elim hstore heq) (by simp [hvisited, heq])
    exact ⟨found, hfound, hfound', fun next hmention => hmentions next (hnext next hmention)⟩

end Explores

/-! ## Meeting demands -/

/-- The step succeeds if nothing stands in the way of its demands, and its success shows that nothing
does. -/
structure Meets (document : Document) (options : Options) {α : Type} (visited : List String)
    (depth : Nat) (step : LowerM α) (demands : List Demand) : Prop where
  explores (path : List String) {store after : Store} {value : α} :
    step.runWith (.within document options path visited depth) store = (.ok value, after) →
      Explores document options visited store after ∧ .refuse ∉ demands ∧
        ∀ reference, .follow reference ∈ demands → reference ∈ visited ∨ after.Records reference
  succeeds (path : List String) (store : Store) :
    (∀ demand ∈ demands, document.Grants options
        (fun known => known ∈ visited ∨ store.Records known) demand) →
      ∃ value after, step.runWith (.within document options path visited depth) store =
        (.ok value, after)

namespace Meets

variable {document : Document} {options : Options} {visited : List String} {depth : Nat}
  {α β : Type} {step : LowerM α} {demands others : List Demand}

theorem succeeds_iff (h : Meets document options visited depth step demands) (path : List String)
    (store : Store) :
    (∃ value after, step.runWith (.within document options path visited depth) store =
      (.ok value, after)) ↔ ∀ demand ∈ demands, document.Grants options
        (fun known => known ∈ visited ∨ store.Records known) demand := by
  refine ⟨?_, h.succeeds path store⟩
  rintro ⟨value, after, hrun⟩ demand hdemand
  obtain ⟨hexplores, hrefuse, hfollow⟩ := h.explores path hrun
  cases demand with
  | refuse => exact absurd hdemand hrefuse
  | follow reference => exact hexplores.grants (hfollow reference hdemand)

theorem congr (h : Meets document options visited depth step demands)
    (hsame : ∀ demand, demand ∈ demands ↔ demand ∈ others) :
    Meets document options visited depth step others where
  explores path _ _ _ hrun := by
    obtain ⟨hexplores, hrefuse, hfollow⟩ := h.explores path hrun
    exact ⟨hexplores, fun h => hrefuse ((hsame _).mpr h),
      fun reference h => hfollow reference ((hsame _).mpr h)⟩
  succeeds path store hgrants :=
    h.succeeds path store fun demand hdemand => hgrants demand ((hsame _).mp hdemand)

theorem of_runWith_eq {step' : LowerM α} (h : Meets document options visited depth step demands)
    (hrun : ∀ path store, step'.runWith (.within document options path visited depth) store =
      step.runWith (.within document options path visited depth) store) :
    Meets document options visited depth step' demands where
  explores path _ _ _ hrun' := h.explores path ((hrun _ _).symm.trans hrun')
  succeeds path store hgrants := by
    rw [hrun path store]
    exact h.succeeds path store hgrants

/-- A step that always succeeds, and leaves what is recorded alone, asks for nothing. -/
theorem of_types_eq (h : ∀ setting store, ∃ value after,
      step.runWith setting store = (.ok value, after) ∧ after.types = store.types) :
    Meets document options visited depth step [] where
  explores path store after value hrun := by
    obtain ⟨_, _, hrun', htypes⟩ := h (.within document options path visited depth) store
    rw [hrun'] at hrun
    cases hrun
    exact ⟨.of_types_eq htypes, by simp, by simp⟩
  succeeds path store _ := by
    obtain ⟨value, after, hrun, -⟩ := h (.within document options path visited depth) store
    exact ⟨value, after, hrun⟩

/-- A step and the next one meet both demands; the next one need do so only for what the first one can
give. -/
theorem bindYields {next : α → LowerM β} (h : Meets document options visited depth step demands)
    (hnext : ∀ value, (∃ path store after,
        step.runWith (.within document options path visited depth) store = (.ok value, after)) →
      Meets document options visited depth (next value) others) :
    Meets document options visited depth (step >>= next) (demands ++ others) where
  explores path _ _ _ hrun := by
    obtain ⟨value, between, hstep, hrest⟩ := runWith_bind_eq_ok.mp hrun
    obtain ⟨hexplores, hrefuse, hfollow⟩ := h.explores path hstep
    obtain ⟨hexplores', hrefuse', hfollow'⟩ := (hnext value ⟨_, _, _, hstep⟩).explores path hrest
    refine ⟨hexplores.trans hexplores', by simp [hrefuse, hrefuse'], fun reference hdemand => ?_⟩
    rcases List.mem_append.mp hdemand with hdemand | hdemand
    · exact (hfollow reference hdemand).imp_right (hexplores'.keeps reference)
    · exact hfollow' reference hdemand
  succeeds path store hgrants := by
    obtain ⟨value, between, hstep⟩ := h.succeeds path store fun demand hdemand =>
      hgrants demand (List.mem_append_left _ hdemand)
    -- what the first part recorded is known to the second one
    have hmore : ∀ demand ∈ others, document.Grants options
        (fun known => known ∈ visited ∨ between.Records known) demand := fun demand hdemand =>
      (hgrants demand (List.mem_append_right _ hdemand)).mono fun reference hknown =>
        hknown.imp_right ((h.explores path hstep).1.keeps reference)
    obtain ⟨result, after, hrest⟩ := (hnext value ⟨_, _, _, hstep⟩).succeeds path between hmore
    exact ⟨result, after, runWith_bind_eq_ok.mpr ⟨value, between, hstep, hrest⟩⟩

theorem bind {next : α → LowerM β} (h : Meets document options visited depth step demands)
    (hnext : ∀ value, Meets document options visited depth (next value) others) :
    Meets document options visited depth (step >>= next) (demands ++ others) :=
  h.bindYields fun value _ => hnext value

theorem of_error (h : ∀ setting store, ∃ error after,
      step.runWith setting store = (.error error, after)) :
    Meets document options visited depth step [.refuse] where
  explores path store after value hrun := by
    obtain ⟨_, _, hrun'⟩ := h (.within document options path visited depth) store
    rw [hrun'] at hrun
    cases hrun
  succeeds _ _ hgrants := absurd (hgrants .refuse (by simp)) id

theorem readOptions {next : Options → LowerM α}
    (h : Meets document options visited depth (next options) demands) :
    Meets document options visited depth (LowerM.options >>= next) demands where
  explores path _ _ _ hrun := h.explores path hrun
  succeeds path store hgrants := h.succeeds path store hgrants

theorem readDocument {next : Document → LowerM α}
    (h : Meets document options visited depth (next document) demands) :
    Meets document options visited depth (LowerM.document >>= next) demands where
  explores path _ _ _ hrun := h.explores path hrun
  succeeds path store hgrants := h.succeeds path store hgrants

theorem withSegment (segment : String) (h : Meets document options visited depth step demands) :
    Meets document options visited depth (LowerM.withSegment segment step) demands where
  explores path _ _ _ hrun := h.explores (path ++ [segment]) hrun
  succeeds path store hgrants := h.succeeds (path ++ [segment]) store hgrants

theorem atDeclarationRoot (h : Meets document options visited 0 step demands) :
    Meets document options visited depth (LowerM.atDeclarationRoot step) demands where
  explores path _ _ _ hrun := h.explores path hrun
  succeeds path store hgrants := h.succeeds path store hgrants

theorem descend (segment : String)
    (h : Meets document options visited (depth + 1) step demands) :
    Meets document options visited depth (LowerM.descend segment step)
      (options.levelDemands depth ++ demands) := by
  unfold Options.levelDemands
  by_cases hdeep : depth + 1 > options.maxDepth
  · rw [if_pos hdeep]
    refine ⟨fun path _ _ _ hrun => ?_, fun _ _ hgrants => absurd (hgrants .refuse (by simp)) id⟩
    rw [runWith_descend_of_lt segment step hdeep] at hrun
    cases hrun
  · rw [if_neg hdeep, List.nil_append]
    refine ⟨fun path _ _ _ hrun => ?_, fun path store hgrants => ?_⟩
    · rw [runWith_descend_of_not_lt segment step hdeep] at hrun
      exact h.explores _ hrun
    · rw [runWith_descend_of_not_lt segment step hdeep]
      exact h.succeeds _ store hgrants

theorem scopedDependencies (merge : List String → List String → List String)
    (h : Meets document options visited depth step demands) :
    Meets document options visited depth (LowerM.scopedDependencies merge step) demands where
  explores path store after value hrun := by
    obtain ⟨inner, hstep, -, rfl⟩ := runWith_scopedDependencies_eq_ok.mp hrun
    obtain ⟨hexplores, hrefuse, hfollow⟩ := h.explores path hstep
    have hstart : Explores document options visited store { store with dependencies := [] } :=
      .of_types_eq rfl
    exact ⟨(hstart.trans hexplores).trans (.of_types_eq rfl), hrefuse, hfollow⟩
  succeeds path store hgrants := by
    obtain ⟨value, after, hstep⟩ := h.succeeds path { store with dependencies := [] } hgrants
    exact ⟨_, _, runWith_scopedDependencies_eq_ok.mpr ⟨after, hstep, rfl, rfl⟩⟩

theorem inlineRules : InlineRules options (Meets document options) where
  congr := congr
  pure value := of_types_eq fun _ store => ⟨value, store, rfl, rfl⟩
  bind := bind
  readOptions := readOptions
  refuse error := of_error fun setting store => ⟨error setting.scope, store, rfl⟩
  warn _ := of_types_eq fun _ _ => ⟨_, _, rfl, rfl⟩
  withSegment := withSegment
  descend := descend

theorem isolateDependencies (h : Meets document options visited depth step demands) :
    Meets document options visited depth (LowerM.isolateDependencies step) demands :=
  inlineRules.map _ (h.scopedDependencies _)

theorem asDeclaration (name : String) (h : Meets document options visited 0 step demands) :
    Meets document options visited depth (Lowering.asDeclaration name step) demands :=
  (h.isolateDependencies.withSegment name).atDeclarationRoot

end Meets

end SchemaTypings
