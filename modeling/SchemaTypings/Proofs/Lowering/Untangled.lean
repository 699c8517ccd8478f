import SchemaTypings.Proofs.Document.Obstacle
import SchemaTypings.Proofs.Lowering.Relates
import SchemaTypings.Proofs.Lowering.Resolution

/-!
# What is recorded in untangled documents

In an untangled document no reference is recorded behind which an obstacle stands. While a reference is
resolved, those being resolved are passed over, but all of them lead to it; so if one of them is met
behind it, both stand on a cycle, and an untangled document has no obstacle there
(`Document.Sound.of_grants`). Nothing is left recorded by a failure that is not sound, either.
-/

namespace SchemaTypings

open LowerM Lowering

variable {document : Document} {options : Options} {visited : List String} {reference : String}

/-! ## Stores -/

namespace Store

/-- What is recorded is sound, except for the references being resolved. -/
def Sound (document : Document) (options : Options) (visited : List String) (store : Store) : Prop :=
  ∀ reference, store.Records reference → reference ∉ visited → document.Sound options reference

/-- From a store that is sound to one that is, where the same of the references being resolved are
recorded. -/
structure KeepsSound (document : Document) (options : Options) (visited : List String)
    (store after : Store) : Prop where
  sound : store.Sound document options visited → after.Sound document options visited
  visited : ∀ reference ∈ visited, (after.Records reference ↔ store.Records reference)

/-- After a reference was entered, it may be recorded only if it resolved, and everything else as if it
were still being resolved. -/
structure LeavesSound (document : Document) (options : Options) (visited : List String)
    (reference : String) (isOk : Bool) (store after : Store) : Prop where
  sound : store.Sound document options visited → after.Sound document options (visited ++ [reference])
  visited : ∀ other ∈ visited, (after.Records other ↔ store.Records other)
  failed : isOk = false → after.Records reference → store.Records reference

variable {store after : Store}

theorem Sound.enter (h : store.Sound document options visited) (reference : String) :
    store.Sound document options (visited ++ [reference]) :=
  fun other hother hvisited => h other hother fun hmem => hvisited (List.mem_append_left _ hmem)

theorem KeepsSound.of_types_eq (h : after.types = store.types) :
    KeepsSound document options visited store after := by
  have hrecords : ∀ reference, after.Records reference ↔ store.Records reference := by
    simp [Records, h]
  exact ⟨fun hsound other hother => hsound other ((hrecords other).mp hother),
    fun other _ => hrecords other⟩

theorem storeRelation_keepsSound : StoreRelation (KeepsSound document options) where
  refl _ _ := .of_types_eq rfl
  trans h h' := ⟨fun hsound => h'.sound (h.sound hsound),
    fun other hother => (h'.visited other hother).trans (h.visited other hother)⟩
  dependencies _ _ _ := .of_types_eq rfl
  warnings _ _ _ := .of_types_eq rfl

theorem LeavesSound.entering (hvisited : reference ∉ visited) :
    Entering document (KeepsSound document options (visited ++ [reference])) reference
      (LeavesSound document options visited reference) where
  refl _ _ := ⟨fun hsound => hsound.enter reference, fun _ _ => Iff.rfl, fun _ => id⟩
  named {store inner} _ h := by
    have hsame : ∀ other ∈ visited, (inner.Records other ↔ store.Records other) :=
      fun other hother => h.visited other (List.mem_append_left _ hother)
    refine ⟨⟨fun hsound => h.sound (hsound.enter reference), hsame,
      fun _ => (h.visited reference (by simp)).mp⟩, fun hsound other hother hnot => ?_,
      fun other hother => ?_, by simp⟩
    · rcases records_record.mp hother with hother | rfl
      · exact h.sound (hsound.enter reference) other hother hnot
      · exact absurd (by simp) hnot
    · rw [records_record, hsame other hother, or_iff_left]
      rintro rfl
      exact hvisited hother
  below {store inner} _ h := by
    have hentered : store.Sound document options visited → (store.enterBelow document
        reference).Sound document options (visited ++ [reference]) := by
      intro hsound other hother hnot
      rcases records_enterBelow.mp hother with hother | rfl
      · exact hsound.enter reference other hother hnot
      · exact absurd (by simp) hnot
    have hsame : ∀ other ∈ visited, (inner.Records other ↔ store.Records other) := by
      intro other hother
      rw [h.visited other (List.mem_append_left _ hother), records_enterBelow, or_iff_left]
      rintro rfl
      exact hvisited hother
    refine ⟨⟨fun hsound other hother => ?_, fun other hother => ?_, fun _ hother => ?_⟩,
      fun _ _ => ⟨fun hsound => h.sound (hentered hsound), hsame, by simp⟩⟩
    · exact h.sound (hentered hsound) other (records_forget.mp hother).1
    · rw [records_forget, hsame other hother, and_iff_left]
      rintro rfl
      exact hvisited hother
    · exact absurd rfl (records_forget.mp hother).2

theorem LeavesSound.keeps {isOk : Bool} (h : LeavesSound document options visited reference isOk store after)
    (hsound : isOk = true → store.Sound document options visited → document.Sound options reference) :
    KeepsSound document options visited store after := by
  refine ⟨fun hstore other hother hvisited => ?_, h.visited⟩
  by_cases heq : other = reference
  · subst heq
    cases isOk with
    | true => exact hsound rfl hstore
    | false => exact hstore other (h.failed rfl hother) hvisited
  · exact h.sound hstore other hother (by simp [hvisited, heq])

end Store

/-! ## Steps -/

/-- While the own reference is being resolved, a reference is allowed to which all those being resolved
lead. -/
def LedTo (document : Document) (own : String) (visited : List String) (reference : String) : Prop :=
  own ∈ visited ∧ ∀ other ∈ visited, document.Leads (fun _ => False) other reference

theorem LedTo.next {own next : String} {target : Schema} (h : LedTo document own visited reference)
    (htarget : document.resolve? reference = some target) (hmention : target.Mentions next) :
    LedTo document own (visited ++ [reference]) next := by
  have hlast : document.Leads (fun _ => False) reference next := .step id htarget hmention (.refl id)
  refine ⟨List.mem_append_left _ h.1, fun other hother => ?_⟩
  rcases List.mem_append.mp hother with hother | hother
  · exact (h.2 other hother).trans hlast
  · obtain rfl := List.mem_singleton.mp hother
    exact hlast

/-- The step keeps a store sound, if all references being resolved lead to those that it follows. -/
def Safe (document : Document) (options : Options) (own : String) {α : Type}
    (visited : List String) (depth : Nat) (step : LowerM α) (demands : List Demand) : Prop :=
  Relates document options (LedTo document own) (Store.KeepsSound document options) visited depth step
    demands

namespace Safe

variable {own : String} {depth : Nat}
  (huntangled : ∀ reference, document.Leads (fun _ => False) own reference →
    document.Returns reference → document.Sound options reference)

theorem inlineRules : InlineRules options (Safe document options own) :=
  Relates.inlineRules Store.storeRelation_keepsSound

include huntangled

/-- A reference that is not being resolved is sound if it resolves. -/
theorem sound_of_resolves {lower : Schema → LowerM String} {path : List String} {store after : Store}
    {name : String} (hled : LedTo document own visited reference) (hvisited : reference ∉ visited)
    (hmeets : Meets document options visited depth (withVisited reference (resolveFresh lower reference))
      [.follow reference]) (hstore : store.Sound document options visited)
    (hrun : (withVisited reference (resolveFresh lower reference)).runWith
      (.within document options path visited depth) store = (.ok name, after)) :
    document.Sound options reference := by
  by_cases hrecords : store.Records reference
  · exact hstore reference hrecords hvisited
  · have hgrants := (hmeets.succeeds_iff path store).mp ⟨name, after, hrun⟩ (.follow reference) (by simp)
    have hnew : ¬(reference ∈ visited ∨ store.Records reference) := by simp [hvisited, hrecords]
    obtain ⟨target, htarget, -⟩ := hgrants.target hnew
    refine .of_grants htarget (huntangled reference (hled.2 own hled.1)) (fun other hother => ?_)
      (hgrants.demands hnew htarget)
    by_cases hmem : other ∈ visited
    · exact Or.inl (hled.2 other hmem)
    · exact Or.inr (hstore other (hother.resolve_left hmem) hmem)

theorem resolveFresh {lower : Schema → LowerM String} (hvisited : reference ∉ visited)
    (hlower : ∀ target, document.resolve? reference = some target → Safe document options own
      (visited ++ [reference]) 0 (lower target) (target.demands options 0))
    (hmeets : ∀ target, document.resolve? reference = some target →
      Meets document options (visited ++ [reference]) 0 (lower target) (target.demands options 0)) :
    Safe document options own visited depth (withVisited reference (resolveFresh lower reference))
      [.follow reference] := by
  intro hallowed path store
  have hled : LedTo document own visited reference := hallowed reference (by simp)
  have hleaves : Store.LeavesSound document options visited reference
      ((withVisited reference (Lowering.resolveFresh lower reference)).runWith
        (.within document options path visited depth) store).1.isOk store
      ((withVisited reference (Lowering.resolveFresh lower reference)).runWith
        (.within document options path visited depth) store).2 := by
    rw [runWith_withVisited_of_not_mem _ hvisited]
    exact Relates.resolveFresh Store.storeRelation_keepsSound (Store.LeavesSound.entering hvisited) hlower
      (fun target next htarget hmention => hled.next htarget hmention) path store
  refine hleaves.keeps fun hok hstore => ?_
  rcases hrun : (withVisited reference (Lowering.resolveFresh lower reference)).runWith
    (.within document options path visited depth) store with ⟨_ | name, after⟩
  · rw [hrun] at hok
    cases hok
  · exact sound_of_resolves huntangled hled hvisited (.resolveFresh hvisited hmeets) hstore hrun

theorem resolveWithin (hlocal : document.Local) {active : Nat}
    (hactive : reference ∈ visited ∨ document.pending (visited ++ [reference]) < active) :
    Safe document options own visited depth (resolveWithin active reference)
      [.follow reference] := by
  induction active generalizing visited depth reference with
  | zero => exact Relates.forwardReference Store.storeRelation_keepsSound reference
  | succ active ih =>
    by_cases hvisited : reference ∈ visited
    · intro hled path store
      rw [runWith_resolveWithin_of_mem _ hvisited]
      exact Relates.forwardReference Store.storeRelation_keepsSound reference hled path store
    · have hpending := hactive.resolve_left hvisited
      have hfresh : Safe document options own visited depth (withVisited reference
          (Lowering.resolveFresh (typeOf fun target => Resolution.name <$>
            Lowering.resolveWithin active target) reference)) [.follow reference] :=
        resolveFresh huntangled hvisited
          (fun target htarget => inlineRules.typeOf fun next hmention _ => inlineRules.map _
            (ih (hlocal.pending_next hpending htarget hmention)))
          fun target htarget => Meets.inlineRules.typeOf fun next hmention _ => Meets.inlineRules.map _
            (.resolveWithin hlocal (hlocal.pending_next hpending htarget hmention))
      intro hled path store
      rw [runWith_resolveWithin_of_not_mem active hvisited]
      refine inlineRules.bindNone hfresh (fun name => ?_) hled path store
      exact Relates.of_runWith fun _ store => .of_types_eq rfl

theorem rules (hlocal : document.Local) :
    Rules document options (Safe document options own) :=
  Relates.rules Store.storeRelation_keepsSound (fun _ _ _ => .of_types_eq rfl)
    fun visited depth reference hled path store => by
      rw [runWith_resolveReference]
      exact resolveWithin huntangled hlocal (Or.inr (document.pending_lt_referenceBound _)) hled path
        store

end Safe

end SchemaTypings
