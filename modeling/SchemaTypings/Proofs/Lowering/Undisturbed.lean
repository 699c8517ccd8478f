import SchemaTypings.Proofs.Lowering.Clear
import SchemaTypings.Proofs.Name.Fresh

/-!
# Steps that others do not disturb

A named schema may be lowered in a store that others left, or alone in a fresh one. The two runs go
side by side (`Store.Alike`): whatever the schema meets is recorded in both or in none of the stores, or
it is clear; and the names that the run alone claims are used by none of the others. Then every step
gives the same in both runs, by the rules for operations (`Undisturbed.rules`).
-/

namespace SchemaTypings

open LowerM Lowering Typing

variable {raw : Json} {document : Document} {options : Options} {own : String}
  {met foreign : String → Prop}

/-! ## Stores -/

/-- Two stores are alike to a schema that meets some references, if others use some foreign names: what
it meets is recorded alike, unless it is clear, and the other names are used in both. If that is
exact, the dependencies are the same. -/
structure Store.Alike (document : Document) (options : Options) (own : String)
    (met foreign : String → Prop) (exact : Prop) (store alone : Store) : Prop where
  types : ∀ reference, met reference →
    store.types.lookup reference = alone.types.lookup reference ∨
      document.Clear options own reference
  dependencies : exact → store.dependencies = alone.dependencies
  names : alone.usedNames ⊆ store.usedNames
  others : ∀ name ∈ store.usedNames, name ∈ alone.usedNames ∨ foreign name

namespace Store.Alike

variable {exact : Prop} {store alone after after' : Store} {reference name : String}
  (halike : Alike document options own met foreign exact store alone)

include halike

theorem record : Alike document options own met foreign exact (store.record reference name)
    (alone.record reference name) where
  types other hmet := by
    rw [lookup_record, lookup_record]
    by_cases hother : other = reference
    · subst hother
      rw [if_pos rfl, if_pos rfl]
      exact (halike.types other hmet).imp_left fun heq => by rw [heq]
    · rw [if_neg hother, if_neg hother]
      exact halike.types other hmet
  dependencies := halike.dependencies
  names := halike.names
  others := halike.others

theorem forget (reference : String) : Alike document options own met foreign exact
    (store.forget reference) (alone.forget reference) where
  types other hmet := by
    rw [lookup_forget, lookup_forget]
    by_cases hother : other = reference
    · exact Or.inl (by rw [if_pos hother, if_pos hother])
    · rw [if_neg hother, if_neg hother]
      exact halike.types other hmet
  dependencies := halike.dependencies
  names := halike.names
  others := halike.others

theorem depend : Alike document options own met foreign exact (store.depend name)
    (alone.depend name) where
  types := halike.types
  dependencies hexact := congrArg (addName · name) (halike.dependencies hexact)
  names := halike.names
  others := halike.others

theorem claim (base : String) (hforeign : ¬foreign (alone.claim base).1) :
    (store.claim base).1 = (alone.claim base).1 ∧ Alike document options own met foreign exact
      (store.claim base).2 (alone.claim base).2 := by
  have hfree : (alone.claim base).1 ∉ store.usedNames := fun hmem =>
    (halike.others _ hmem).elim (Name.fresh_not_mem _ _ _) hforeign
  have hname : (store.claim base).1 = (alone.claim base).1 :=
    Name.fresh_eq_of_subset halike.names hfree
  have hnames : (store.claim base).2.usedNames = store.usedNames ++ [(alone.claim base).1] :=
    congrArg (store.usedNames ++ [·]) hname
  refine ⟨hname, halike.types, halike.dependencies, fun other hother => ?_, fun other hother => ?_⟩
  · rw [hnames]
    exact (List.mem_append.mp hother).elim (fun h => List.mem_append_left _ (halike.names h))
      (List.mem_append_right _)
  · rw [hnames] at hother
    rcases List.mem_append.mp hother with h | h
    · exact (halike.others other h).imp_left (List.mem_append_left _)
    · exact Or.inl (List.mem_append_right _ h)

theorem enterBelow (reference : String)
    (hforeign : ∀ name ∈ (alone.enterBelow document reference).usedNames, ¬foreign name) :
    (store.nameBelow document reference).1 = (alone.nameBelow document reference).1 ∧
      Alike document options own met foreign exact (store.enterBelow document reference)
        (alone.enterBelow document reference) := by
  have hname : (store.nameBelow document reference).1 = (alone.nameBelow document reference).1 ∧
      Alike document options own met foreign exact (store.nameBelow document reference).2
        (alone.nameBelow document reference).2 := by
    unfold Store.enterBelow at hforeign
    unfold nameBelow at hforeign ⊢
    split
    · exact ⟨rfl, halike⟩
    · rename_i hnone
      rw [hnone] at hforeign
      exact halike.claim _ (hforeign _ (List.mem_append_right _ (List.mem_singleton.mpr rfl)))
  refine ⟨hname.1, ?_⟩
  rw [Store.enterBelow, Store.enterBelow, hname.1]
  exact hname.2.record

/-- Stores that are spared stay alike, if one more dependency, if any, is the same. -/
theorem spares (hafter : Spares document options own store after)
    (hafter' : Spares document options own alone after')
    (hdependencies : exact → after.dependencies = after'.dependencies) :
    Alike document options own met foreign exact after after' where
  types reference hmet := by
    by_cases hclear : document.Clear options own reference
    · exact Or.inr hclear
    · rw [hafter.types reference hclear, hafter'.types reference hclear]
      exact halike.types reference hmet
  dependencies := hdependencies
  names := by
    rw [hafter.names, hafter'.names]
    exact halike.names
  others := by
    rw [hafter.names, hafter'.names]
    exact halike.others

end Store.Alike

/-! ## Steps -/

/-- Two runs end alike: with the same failure or the same result, and in related stores. -/
inductive EndAlike {α : Type} (related : Store → Store → Prop) :
    Except LoweringError α × Store → Except LoweringError α × Store → Prop
  | error (error : LoweringError) {after after' : Store} (h : related after after') :
    EndAlike related (.error error, after) (.error error, after')
  | ok (value : α) {after after' : Store} (h : related after after') :
    EndAlike related (.ok value, after) (.ok value, after')

theorem EndAlike.fst_eq {α : Type} {related : Store → Store → Prop}
    {ending ending' : Except LoweringError α × Store} (h : EndAlike related ending ending') :
    ending.1 = ending'.1 := by
  cases h <;> rfl

theorem EndAlike.related {α : Type} {related : Store → Store → Prop}
    {ending ending' : Except LoweringError α × Store} (h : EndAlike related ending ending') :
    related ending.2 ending'.2 := by
  cases h <;> assumption

/-- The step gives the same in stores that are alike, if it follows references that are met, is run while
the own reference is being resolved, and alone claims no foreign name. -/
structure Undisturbed (document : Document) (options : Options) (own : String)
    (met foreign : String → Prop) {α : Type} (visited : List String) (depth : Nat) (step : LowerM α)
    (demands : List Demand) : Prop where
  changes : Changes document options visited depth step demands
  agrees (path : List String) {exact : Prop} (store alone : Store) : own ∈ visited →
    (∀ reference, .follow reference ∈ demands → met reference) →
    store.Canonical document → alone.Canonical document →
    store.Alike document options own met foreign exact alone →
    (∀ name ∈ (step.runWith (.within document options path visited depth) alone).2.usedNames,
      ¬foreign name) →
    EndAlike (Store.Alike document options own met foreign exact)
      (step.runWith (.within document options path visited depth) store)
      (step.runWith (.within document options path visited depth) alone)

namespace Undisturbed

variable {visited : List String} {depth : Nat} {α β : Type} {step : LowerM α}
  {demands others : List Demand} {reference : String}

theorem of_value (hchanges : Changes document options visited depth step demands)
    (value : Setting → α) (h : ∀ setting store, ∃ warnings,
      step.runWith setting store = (.ok (value setting), { store with warnings })) :
    Undisturbed document options own met foreign visited depth step demands where
  changes := hchanges
  agrees path _ store alone _ _ _ _ halike _ := by
    obtain ⟨warnings, hrun⟩ := h (.within document options path visited depth) store
    obtain ⟨warnings', hrun'⟩ := h (.within document options path visited depth) alone
    rw [hrun, hrun']
    exact .ok _ ⟨halike.types, halike.dependencies, halike.names, halike.others⟩

theorem of_runWith_eq {step' : LowerM α}
    (h : Undisturbed document options own met foreign visited depth step demands)
    (hrun : ∀ path store, step'.runWith (.within document options path visited depth) store =
      step.runWith (.within document options path visited depth) store) :
    Undisturbed document options own met foreign visited depth step' demands where
  changes hallowed path store := by
    rw [hrun]
    exact h.changes hallowed path store
  agrees path _ store alone hown hmet hcanonical hcanonical' halike hforeign := by
    rw [hrun] at hforeign ⊢
    rw [hrun]
    exact h.agrees path store alone hown hmet hcanonical hcanonical' halike hforeign

theorem bindYields (h : Document.ofJson raw = .ok document) {next : α → LowerM β}
    (hstep : Undisturbed document options own met foreign visited depth step demands)
    (hnext : ∀ value, (∃ path store after,
        step.runWith (.within document options path visited depth) store = (.ok value, after)) →
      Undisturbed document options own met foreign visited depth (next value) others) :
    Undisturbed document options own met foreign visited depth (step >>= next)
      (demands ++ others) where
  changes := Relates.bindYields (Store.storeRelation_changes document) hstep.changes
    fun value hvalue => (hnext value hvalue).changes
  agrees path exact store alone hown hmet hcanonical hcanonical' halike hforeign := by
    have hbetween := hcanonical.changes h (hstep.changes.run path store)
    have hbetween' := hcanonical'.changes h (hstep.changes.run path alone)
    rw [runWith_bind] at hforeign
    -- the names claimed by the first part are still used after the second one
    have hfirst : ∀ name ∈ (step.runWith (.within document options path visited depth)
        alone).2.usedNames, ¬foreign name := by
      intro name hname
      rcases hrun : step.runWith (.within document options path visited depth) alone with
        ⟨error | value, between⟩ <;> rw [hrun] at hname hforeign
      · exact hforeign name hname
      · exact hforeign name (Store.names_of_changes
          ((hnext value ⟨_, _, _, hrun⟩).changes.run path between) hname)
    have hend := hstep.agrees path store alone hown (fun reference h => hmet reference (List.mem_append_left _ h))
      hcanonical hcanonical' halike hfirst
    rw [runWith_bind, runWith_bind]
    generalize hrun : step.runWith (.within document options path visited depth) store = ending
      at hend hbetween
    generalize hrun' : step.runWith (.within document options path visited depth) alone = ending'
      at hend hbetween' hforeign
    cases hend with
    | error error halike => exact .error error halike
    | ok value halike =>
      exact (hnext value ⟨_, _, _, hrun⟩).agrees path _ _ hown
        (fun reference h => hmet reference (List.mem_append_right _ h)) hbetween hbetween' halike
        hforeign

theorem descend (segment : String)
    (h : Undisturbed document options own met foreign visited (depth + 1) step demands) :
    Undisturbed document options own met foreign visited depth (LowerM.descend segment step)
      (options.levelDemands depth ++ demands) where
  changes := Changes.rules.descend segment h.changes
  agrees path exact store alone hown hmet hcanonical hcanonical' halike hforeign := by
    by_cases hdeep : options.maxDepth < depth + 1
    · rw [runWith_descend_of_lt segment step hdeep, runWith_descend_of_lt segment step hdeep]
      exact .error _ halike
    · rw [runWith_descend_of_not_lt segment step hdeep] at hforeign ⊢
      rw [runWith_descend_of_not_lt segment step hdeep]
      exact h.agrees _ store alone hown
        (fun reference hdemand => hmet reference (List.mem_append_right _ hdemand)) hcanonical
        hcanonical' halike hforeign

/-- Inside, both runs start without dependencies, so that they are the same afterwards. -/
theorem scopedDependencies (merge : List String → List String → List String)
    (h : Undisturbed document options own met foreign visited depth step demands) :
    Undisturbed document options own met foreign visited depth
      (LowerM.scopedDependencies merge step) demands where
  changes := h.changes.scopedDependencies (Store.storeRelation_changes document) merge
  agrees path exact store alone hown hmet hcanonical hcanonical' halike hforeign := by
    rw [runWith_scopedDependencies] at hforeign ⊢
    rw [runWith_scopedDependencies]
    have hstart : Store.Alike document options own met foreign True { store with dependencies := [] }
        { alone with dependencies := [] } :=
      ⟨halike.types, fun _ => rfl, halike.names, halike.others⟩
    have hend := h.agrees path { store with dependencies := [] } { alone with dependencies := [] }
      hown hmet hcanonical hcanonical' hstart hforeign
    generalize step.runWith (.within document options path visited depth)
      { store with dependencies := [] } = ending at hend
    generalize step.runWith (.within document options path visited depth)
      { alone with dependencies := [] } = ending' at hend
    have hmerged : ∀ {after after' : Store},
        Store.Alike document options own met foreign True after after' →
          Store.Alike document options own met foreign exact
            { after with dependencies := merge store.dependencies after.dependencies }
            { after' with dependencies := merge alone.dependencies after'.dependencies } :=
      fun hafter => ⟨hafter.types, fun hexact => congrArg₂ merge (halike.dependencies hexact)
        (hafter.dependencies trivial), hafter.names, hafter.others⟩
    cases hend with
    | error error hafter => exact .error error (hmerged hafter)
    | @ok value after after' hafter =>
      dsimp only [Except.map]
      rw [← hafter.dependencies trivial]
      exact .ok _ (hafter.dependencies trivial ▸ hmerged hafter)

theorem inlineRules (h : Document.ofJson raw = .ok document) :
    InlineRules options (Undisturbed document options own met foreign) where
  congr hstep hsame := ⟨Changes.rules.congr hstep.changes hsame,
    fun path _ store alone hown hmet => hstep.agrees path store alone hown
      fun reference hdemand => hmet reference ((hsame _).mp hdemand)⟩
  pure value := of_value (Changes.rules.pure value) (fun _ => value) fun _ _ => ⟨_, rfl⟩
  bind hstep hnext := hstep.bindYields h fun value _ => hnext value
  readOptions hstep := ⟨hstep.changes, hstep.agrees⟩
  refuse error :=
    ⟨Changes.rules.refuse error, fun _ _ _ _ _ _ _ _ halike _ => .error _ halike⟩
  warn message := of_value (Changes.rules.warn message) (fun _ => ()) fun _ _ => ⟨_, rfl⟩
  withSegment segment hstep := ⟨Changes.rules.withSegment segment hstep.changes,
    fun path => hstep.agrees (path ++ [segment])⟩
  descend := descend

end Undisturbed

end SchemaTypings
