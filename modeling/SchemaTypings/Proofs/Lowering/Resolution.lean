import SchemaTypings.Proofs.Lowering.Meets
import SchemaTypings.Proofs.Lowering.Rules

/-!
# References meet their demands

Resolving a reference asks for nothing but that it is followed. The proof is by induction on how many
references may still be entered: those being resolved differ, and the ones within the document are no
more than its strings (`Document.pending`), so the limit is never reached.
-/

namespace SchemaTypings

open LowerM Lowering

/-- How many strings of the document are none of the references being resolved. -/
def Document.pending (document : Document) (visited : List String) : Nat :=
  (document.raw.strings.filter fun text => !visited.contains text).length

theorem Document.pending_lt {document : Document} {visited : List String} {reference : String}
    (h : reference ∈ document.raw.strings) (hvisited : reference ∉ visited) :
    document.pending (visited ++ [reference]) < document.pending visited := by
  have hsplit : (document.raw.strings.filter fun text => !(visited ++ [reference]).contains text) =
      (document.raw.strings.filter fun text => !visited.contains text).filter (· != reference) := by
    rw [List.filter_filter]
    refine List.filter_congr fun text _ => ?_
    by_cases h : text = reference <;> simp [h]
  unfold pending
  rw [hsplit]
  refine List.length_filter_lt_length_iff_exists.mpr ⟨reference, ?_, by simp⟩
  simp [List.mem_filter, h, hvisited]

theorem Document.pending_lt_referenceBound (document : Document) (visited : List String) :
    document.pending visited < document.referenceBound :=
  Nat.lt_succ_of_le (List.length_filter_le _ _)

/-- A reference in the target of one that is being resolved is being resolved already, or it leaves one
string less. -/
theorem Document.Local.pending_next {document : Document} (hlocal : document.Local)
    {visited : List String} {reference next : String} {target : Schema} {active : Nat}
    (hpending : document.pending (visited ++ [reference]) < active + 1)
    (htarget : document.resolve? reference = some target) (hmention : target.Mentions next) :
    next ∈ visited ++ [reference] ∨
      document.pending (visited ++ [reference] ++ [next]) < active := by
  by_cases h : next ∈ visited ++ [reference]
  · exact Or.inl h
  · have hlt := Document.pending_lt (hlocal reference target next htarget hmention) h
    exact Or.inr (by omega)

variable {document : Document} {options : Options} {visited : List String} {depth : Nat}
  {reference : String}

/-! ## One reference -/

/-- The step follows the reference by lowering its target, and the reference is being resolved
meanwhile: its success explores the target, and it succeeds if the target does. -/
structure Follows (document : Document) (options : Options) {α : Type} (visited : List String)
    (depth : Nat) (step : LowerM α) (reference : String) (target : Schema) : Prop where
  explores (path : List String) {store after : Store} {value : α} :
    step.runWith (.within document options path (visited ++ [reference]) depth) store =
        (.ok value, after) →
      Explores document options visited store after ∧ after.Records reference
  succeeds (path : List String) (store : Store) :
    (∀ demand ∈ target.demands options 0, document.Grants options
        (fun known => known ∈ visited ++ [reference] ∨ store.Records known) demand) →
      ∃ value after, step.runWith (.within document options path (visited ++ [reference]) depth)
        store = (.ok value, after)

namespace Follows

variable {lower : LowerM String} {target : Schema}
  (hlower : Meets document options (visited ++ [reference]) 0 lower (target.demands options 0))
  (htarget : document.resolve? reference = some target)

include hlower htarget

theorem resolveNamed :
    Follows document options visited depth (resolveNamed lower reference) reference target := by
  have hinner : Meets document options (visited ++ [reference]) depth
      (asDeclaration (Name.ofReference reference) lower) (target.demands options 0) :=
    hlower.asDeclaration _
  refine ⟨fun path store after value hrun => ?_, fun path store hgrants => ?_⟩
  · obtain ⟨type, inner, hstep, -, rfl⟩ := resolveNamed_eq_ok.mp hrun
    obtain ⟨hexplores, hfine, hmet⟩ := hinner.explores path hstep
    have hafter : ∀ other, (inner.record reference (Name.ofReference reference)).Records other ↔
        inner.Records other ∨ other = reference := fun other => Store.records_record
    refine ⟨hexplores.leave (fun _ => id) (fun _ => Or.inl) hafter htarget hfine ?_,
      (hafter reference).mpr (Or.inr rfl)⟩
    exact fun next hnext => hmet next (Schema.follow_mem_demands.mpr hnext)
  · obtain ⟨type, inner, hstep⟩ := hinner.succeeds path store hgrants
    exact ⟨_, _, resolveNamed_eq_ok.mpr ⟨type, inner, hstep, rfl, rfl⟩⟩

theorem resolveBelow :
    Follows document options visited depth (resolveBelow lower reference) reference target := by
  have hinner : ∀ name, Meets document options (visited ++ [reference]) depth
      (asDeclaration name (collectDependencies lower)) (target.demands options 0) :=
    fun name => (hlower.scopedDependencies _).asDeclaration name
  have hbefore : ∀ store : Store, ∀ other, (store.enterBelow document reference).Records other ↔
      store.Records other ∨ other = reference := fun store other => Store.records_enterBelow
  refine ⟨fun path store after value hrun => ?_, fun path store hgrants => ?_⟩
  · obtain ⟨type, dependencies, inner, hstep, -, rfl⟩ := resolveBelow_eq_ok.mp hrun
    obtain ⟨hexplores, hfine, hmet⟩ := (hinner _).explores path hstep
    have hreference : inner.Records reference :=
      hexplores.keeps reference ((hbefore store reference).mpr (Or.inr rfl))
    have hafter : ∀ other, inner.Records other ↔ inner.Records other ∨ other = reference :=
      fun other => ⟨Or.inl, fun h => h.elim id fun h => h ▸ hreference⟩
    refine ⟨hexplores.leave (fun other h => (hbefore store other).mpr (Or.inl h))
      (fun other => (hbefore store other).mp) hafter htarget hfine ?_, hreference⟩
    exact fun next hnext => hmet next (Schema.follow_mem_demands.mpr hnext)
  · have hmore : ∀ demand ∈ target.demands options 0, document.Grants options (fun known =>
        known ∈ visited ++ [reference] ∨ (store.enterBelow document reference).Records known)
        demand := fun demand hdemand => (hgrants demand hdemand).mono fun other hknown =>
          hknown.imp_right fun h => (hbefore store other).mpr (Or.inl h)
    obtain ⟨⟨type, dependencies⟩, inner, hstep⟩ :=
      (hinner (store.nameBelow document reference).1).succeeds path _ hmore
    exact ⟨_, _, resolveBelow_eq_ok.mpr ⟨type, dependencies, inner, hstep, rfl, rfl⟩⟩

end Follows

namespace Meets

theorem forwardReference (h : reference ∈ visited) :
    Meets document options visited depth (forwardReference reference) [.follow reference] where
  explores _ _ _ _ hrun := by
    rw [runWith_forwardReference] at hrun
    cases hrun
    refine ⟨.of_types_eq rfl, by simp, fun other hother => ?_⟩
    obtain rfl : other = reference := by simpa using hother
    exact Or.inl h
  succeeds _ _ _ := ⟨_, _, runWith_forwardReference⟩

theorem resolveFresh {lower : Schema → LowerM String} (hvisited : reference ∉ visited)
    (hlower : ∀ target, document.resolve? reference = some target →
      Meets document options (visited ++ [reference]) 0 (lower target) (target.demands options 0)) :
    Meets document options visited depth (withVisited reference (resolveFresh lower reference))
      [.follow reference] := by
  have hfollows : ∀ target, document.resolve? reference = some target →
      Follows document options visited depth (if document.isNamed reference then
        resolveNamed (lower target) reference else resolveBelow (lower target) reference)
        reference target := by
    intro target htarget
    split
    · exact .resolveNamed (hlower target htarget) htarget
    · exact .resolveBelow (hlower target htarget) htarget
  refine ⟨fun path store after value hrun => ?_, fun path store hgrants => ?_⟩
  · rw [runWith_withVisited_of_not_mem _ hvisited, runWith_resolveFresh] at hrun
    have hmet : Explores document options visited store after ∧ after.Records reference := by
      split at hrun
      · rename_i hrecorded
        cases hrun
        exact ⟨.of_types_eq rfl, by simp [Store.Records, hrecorded]⟩
      · cases hrun
      · rename_i target _ htarget
        exact (hfollows target htarget).explores path hrun
    refine ⟨hmet.1, by simp, fun other hother => Or.inr ?_⟩
    obtain rfl : other = reference := by simpa using hother
    exact hmet.2
  · rw [runWith_withVisited_of_not_mem _ hvisited, runWith_resolveFresh]
    cases hrecorded : store.types.lookup reference with
    | some name => exact ⟨name, store, rfl⟩
    | none =>
      have hnew : ¬(reference ∈ visited ∨ store.Records reference) := by
        simp [hvisited, Store.not_records_iff.mpr hrecorded]
      have hfollow := hgrants (.follow reference) (by simp)
      obtain ⟨target, htarget, -⟩ := hfollow.target hnew
      simp only [htarget]
      refine (hfollows target htarget).succeeds path store fun demand hdemand => ?_
      exact (hfollow.demands hnew htarget demand hdemand).mono fun other h =>
        h.imp_left (List.mem_append_left _)

/-- A reference, if fewer strings are left in the document than references may be entered. -/
theorem resolveWithin (hlocal : document.Local) {active : Nat}
    (hactive : reference ∈ visited ∨ document.pending (visited ++ [reference]) < active) :
    Meets document options visited depth (resolveWithin active reference) [.follow reference] := by
  induction active generalizing visited depth reference with
  | zero => exact forwardReference (hactive.resolve_right (Nat.not_lt_zero _))
  | succ active ih =>
    by_cases hvisited : reference ∈ visited
    · exact (forwardReference hvisited).of_runWith_eq fun path store =>
        runWith_resolveWithin_of_mem _ hvisited
    · have hpending := hactive.resolve_left hvisited
      have hfresh : Meets document options visited depth (withVisited reference
          (Lowering.resolveFresh (typeOf fun target => Resolution.name <$>
            Lowering.resolveWithin active target) reference)) [.follow reference] :=
        resolveFresh hvisited fun target htarget => inlineRules.typeOf fun next hmention _ =>
          inlineRules.map Resolution.name (ih (hlocal.pending_next hpending htarget hmention))
      have hnew : Meets document options visited depth (resolveNew active reference)
          [.follow reference] := inlineRules.bindNone hfresh fun name => of_types_eq
        fun setting store => ⟨⟨name, false⟩, store.depend name, rfl, rfl⟩
      exact hnew.of_runWith_eq fun path store => runWith_resolveWithin_of_not_mem active hvisited

theorem resolveReference (hlocal : document.Local) :
    Meets document options visited depth (resolveReference reference) [.follow reference] :=
  readDocument (resolveWithin hlocal (Or.inr (document.pending_lt_referenceBound _)))

/-- What is made of type expressions and references meets its demands. -/
theorem rules (hlocal : document.Local) : Rules document options (Meets document options) where
  toInlineRules := inlineRules
  readDocument := readDocument
  collectDependencies h := h.scopedDependencies _
  claimName base := of_types_eq fun setting store => ⟨_, _, runWith_claimName base setting store, rfl⟩
  resolveReference hnext := by
    refine (resolveReference hlocal).bindYields fun resolution hyields => ?_
    obtain ⟨path, store, after, hrun⟩ := hyields
    rw [circular_of_resolveReference hrun]
    exact hnext resolution.name

end Meets

end SchemaTypings
