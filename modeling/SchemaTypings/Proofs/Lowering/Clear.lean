import SchemaTypings.Proofs.Lowering.Agreement
import SchemaTypings.Proofs.Lowering.Resolution

/-!
# Clear references

While a named schema is declared, its own reference is being resolved. A reference is clear then if
everything that it leads to without passing the own one has a type, and a name that is fixed by the
document. To resolve it gives the fixed name in every store, and leaves nothing behind that matters but
what is recorded for clear references (`Lowering.runWith_of_clear`). So it makes no difference whether a
clear reference was resolved before.
-/

namespace SchemaTypings

open LowerM Lowering

variable {raw : Json} {document : Document} {options : Options} {own : String}

/-! ## References -/

namespace Document

/-- No obstacle stands behind the reference, and no name that the document does not fix, unless behind
the own reference. -/
def Clear (document : Document) (options : Options) (own reference : String) : Prop :=
  ∀ last, document.Leads (· = own) reference last →
    ¬document.Obstacle options last ∧ document.Fixed last

variable {reference : String} {target : Schema}

theorem Clear.fixed (h : document.Clear options own reference) (hne : reference ≠ own) :
    document.Fixed reference :=
  (h reference (.refl hne)).2

theorem Clear.next {other : String} (h : document.Clear options own reference)
    (hne : reference ≠ own) (htarget : document.resolve? reference = some target)
    (hmention : target.Mentions other) : document.Clear options own other :=
  fun last hleads => h last (.step hne htarget hmention hleads)

theorem Clear.of_demands_eq_nil (hnamed : document.isNamed reference)
    (htarget : document.resolve? reference = some target) (h : target.demands options 0 = []) :
    document.Clear options own reference := by
  intro last hleads
  cases hleads with
  | refl => exact ⟨not_obstacle_iff.mpr ⟨target, htarget, by simp [h]⟩, Or.inl hnamed⟩
  | step _ hfound hmention _ =>
    obtain rfl := Option.some.inj (htarget.symm.trans hfound)
    have hdemand : .follow _ ∈ target.demands options 0 := Schema.follow_mem_demands.mpr hmention
    simp [h] at hdemand

/-- A clear reference may be followed while the own one is being resolved. -/
theorem Clear.grants (h : document.Clear options own reference) {known : String → Prop}
    (hown : known own) : document.Grants options known (.follow reference) :=
  fun last hleads => (h last (hleads.mono fun _ heq => heq ▸ hown)).1

end Document

/-! ## Stores -/

/-- From a store to the one after, no names were used, and nothing was recorded or forgotten but for
clear references. -/
structure Store.Spares (document : Document) (options : Options) (own : String)
    (store after : Store) : Prop where
  names : after.usedNames = store.usedNames
  types : ∀ reference, ¬document.Clear options own reference →
    after.types.lookup reference = store.types.lookup reference

namespace Store.Spares

variable {store between after : Store} {reference : String}

theorem refl (store : Store) : Spares document options own store store :=
  ⟨rfl, fun _ _ => rfl⟩

theorem trans (h : Spares document options own store between)
    (h' : Spares document options own between after) : Spares document options own store after :=
  ⟨h'.names.trans h.names, fun reference hclear =>
    (h'.types reference hclear).trans (h.types reference hclear)⟩

theorem record (store : Store) (name : String) (hclear : document.Clear options own reference) :
    Spares document options own store (store.record reference name) := by
  refine ⟨rfl, fun other hother => ?_⟩
  rw [lookup_record, if_neg]
  rintro rfl
  exact hother hclear

theorem forget (store : Store) (hclear : document.Clear options own reference) :
    Spares document options own store (store.forget reference) := by
  refine ⟨rfl, fun other hother => ?_⟩
  rw [lookup_forget, if_neg]
  rintro rfl
  exact hother hclear

/-- No name is claimed for a clear reference, since one is reserved. -/
theorem enterBelow (store : Store) (hclear : document.Clear options own reference) (hne : reference ≠ own)
    (hnamed : ¬document.isNamed reference) :
    Spares document options own store (store.enterBelow document reference) := by
  obtain ⟨reserved, hreserved⟩ :=
    Option.isSome_iff_exists.mp ((hclear.fixed hne).resolve_left hnamed)
  rw [Store.enterBelow, show store.nameBelow document reference = (reserved, store) by
    simp [nameBelow, hreserved]]
  exact record store reserved hclear

theorem entering (hclear : document.Clear options own reference) (hne : reference ≠ own) :
    Entering document (Spares document options own) reference
      fun _ => Spares document options own where
  refl _ store := .refl store
  named _ h := ⟨h, h.trans (.record _ _ hclear)⟩
  below {store inner} hnamed h :=
    have hentered := (enterBelow store hclear hne hnamed).trans h
    ⟨hentered.trans (.forget inner hclear), fun _ _ => ⟨hentered.names, hentered.types⟩⟩

end Store.Spares

theorem Store.storeRelation_spares :
    StoreRelation fun _ => Spares document options own where
  refl _ store := .refl store
  trans := .trans
  dependencies _ _ _ := ⟨rfl, fun _ _ => rfl⟩
  warnings _ _ _ := ⟨rfl, fun _ _ => rfl⟩

/-! ## Resolving clear references -/

namespace Lowering

variable {visited : List String} {reference : String}

theorem dependencies_asDeclaration {α : Type} (name : String) (step : LowerM α) (setting : Setting)
    (store : Store) :
    ((asDeclaration name step).runWith setting store).2.dependencies = store.dependencies := by
  rw [asDeclaration, runWith_atDeclarationRoot, runWith_withSegment, isolateDependencies, runWith_map,
    runWith_scopedDependencies]

/-- What the target of a reference depends on does not count where the reference stands. -/
theorem dependencies_resolveFresh (lower : Schema → LowerM String) (reference : String)
    (path visited : List String) (depth : Nat) (store : Store) :
    ((resolveFresh lower reference).runWith (.within document options path visited depth)
      store).2.dependencies = store.dependencies := by
  rw [runWith_resolveFresh]
  split
  · rfl
  · rfl
  · rename_i target _ _
    split
    · have hinner := dependencies_asDeclaration (Name.ofReference reference) (lower target)
        (.within document options path visited depth) store
      rw [runWith_resolveNamed]
      rcases heq : (asDeclaration (Name.ofReference reference) (lower target)).runWith
        (.within document options path visited depth) store with ⟨_ | _, inner⟩ <;>
          rw [heq] at hinner <;> exact hinner
    · have hinner := dependencies_asDeclaration (store.nameBelow document reference).1
        (collectDependencies (lower target)) (.within document options path visited depth)
        (store.enterBelow document reference)
      have henter : (store.enterBelow document reference).dependencies = store.dependencies := by
        unfold Store.enterBelow Store.nameBelow
        split <;> rfl
      rw [henter] at hinner
      rw [runWith_resolveBelow]
      rcases heq : (asDeclaration (store.nameBelow document reference).1
        (collectDependencies (lower target))).runWith (.within document options path visited depth)
          (store.enterBelow document reference) with ⟨_ | ⟨_, _⟩, inner⟩ <;>
            rw [heq] at hinner <;> exact hinner

theorem spares_resolveWithin (active : Nat) (hclear : document.Clear options own reference)
    (hown : own ∈ visited) (path : List String) (depth : Nat) (store : Store) :
    Store.Spares document options own store ((resolveWithin active reference).runWith
      (.within document options path visited depth) store).2 := by
  have hrelates : Relates document options
      (fun visited reference => own ∈ visited ∧ document.Clear options own reference)
      (fun _ => Store.Spares document options own) visited depth (resolveWithin active reference)
      [.follow reference] := by
    refine Relates.resolveWithin Store.storeRelation_spares (fun visited reference hclear hvisited =>
      Store.Spares.entering hclear.2 (ne_of_mem_of_not_mem hclear.1 hvisited).symm) ?_ active reference
    intro visited reference target next hclear hvisited htarget hmention
    have hne : reference ≠ own := (ne_of_mem_of_not_mem hclear.1 hvisited).symm
    exact ⟨List.mem_append_left _ hclear.1, hclear.2.next hne htarget hmention⟩
  refine hrelates (fun other hother => ?_) path store
  obtain rfl : other = reference := by simpa using hother
  exact ⟨hown, hclear⟩

/-- A clear reference that is not being resolved resolves to its fixed name, and spares the store, where
it counts as one more dependency. -/
theorem runWith_of_clear (h : Document.ofJson raw = .ok document) {active : Nat}
    (hactive : document.pending (visited ++ [reference]) < active)
    (hclear : document.Clear options own reference) (hown : own ∈ visited)
    (hvisited : reference ∉ visited) (path : List String) (depth : Nat) {store : Store}
    (hcanonical : store.Canonical document) :
    ∃ after, (resolveWithin active reference).runWith (.within document options path visited depth)
        store = (.ok ⟨document.fixedName reference, false⟩, after) ∧
      Store.Spares document options own store after ∧
        after.dependencies = (store.depend (document.fixedName reference)).dependencies := by
  have hne : reference ≠ own := (ne_of_mem_of_not_mem hown hvisited).symm
  have hmeets : Meets document options visited depth (resolveWithin active reference)
      [.follow reference] := .resolveWithin (Document.local_of_ofJson h) (Or.inr hactive)
  obtain ⟨resolution, after, hrun⟩ := hmeets.succeeds path store fun demand hdemand => by
    obtain rfl := List.mem_singleton.mp hdemand
    exact hclear.grants (Or.inl hown)
  have hspares := spares_resolveWithin active hclear hown path depth store
  have hname := name_eq_fixedName h hcanonical (hclear.fixed hne) hrun
  rw [hrun] at hspares
  cases active with
  | zero => exact absurd hactive (Nat.not_lt_zero _)
  | succ active =>
    have hnew := hrun
    rw [runWith_resolveWithin_of_not_mem active hvisited, resolveNew, runWith_bind_eq_ok] at hnew
    obtain ⟨name, between, hfresh, hrest⟩ := hnew
    cases hrest
    obtain rfl : name = document.fixedName reference := hname
    rw [runWith_withVisited_of_not_mem _ hvisited] at hfresh
    have hdependencies : between.dependencies = store.dependencies := by
      rw [← dependencies_resolveFresh _ _ _ _ _ store, hfresh]
    refine ⟨_, hrun, hspares, ?_⟩
    show addName between.dependencies _ = addName store.dependencies _
    rw [hdependencies]

end Lowering

end SchemaTypings
