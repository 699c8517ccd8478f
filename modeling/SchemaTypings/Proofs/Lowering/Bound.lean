import SchemaTypings.Proofs.Lowering.InlineCongruence
import SchemaTypings.Proofs.Lowering.Moments
import SchemaTypings.Proofs.Lowering.Resolution

/-!
# The bound on references is never reached

References are resolved with a bound on how many of them are entered within each other. Within a
document, the bound makes no difference: whatever is done beyond it is never done
(`sameRuns_resolveUpTo`), so a reference is resolved by the recursion that has no bound at all
(`sameRuns_resolveBy`).
-/

namespace SchemaTypings

open LowerM Lowering

namespace Lowering

/-- What a reference resolves to, by the step that other references within its target take. -/
def resolveBy (resolve : String → LowerM Resolution) (reference : String) : LowerM Resolution := do
  if (← scope).visited.contains reference then forwardReference reference
  else
    let name ← withVisited reference
      (resolveFresh (typeOf fun target => Resolution.name <$> resolve target) reference)
    modify (Store.depend name)
    return ⟨name, false⟩

/-- What a reference resolves to, if another step is taken beyond `bound` references entered within each
other. -/
def resolveUpTo (beyond : String → LowerM Resolution) : Nat → String → LowerM Resolution
  | 0 => beyond
  | bound + 1 => resolveBy (resolveUpTo beyond bound)

end Lowering

variable {document : Document} {options : Options} {visited : List String} {α β : Type}

/-- The steps run in the same way wherever the references are being resolved. -/
def SameRuns (document : Document) (options : Options) (visited : List String) {α : Type}
    (step step' : LowerM α) : Prop :=
  ∀ path depth store, step.runWith (.within document options path visited depth) store =
    step'.runWith (.within document options path visited depth) store

namespace SameRuns

theorem refl (step : LowerM α) : SameRuns document options visited step step :=
  fun _ _ _ => rfl

theorem symm {step step' : LowerM α} (h : SameRuns document options visited step step') :
    SameRuns document options visited step' step :=
  fun path depth store => (h path depth store).symm

theorem trans {step between step' : LowerM α} (h : SameRuns document options visited step between)
    (h' : SameRuns document options visited between step') :
    SameRuns document options visited step step' :=
  fun path depth store => (h path depth store).trans (h' path depth store)

theorem run_eq {context : Context} {step step' : LowerM α}
    (h : SameRuns context.document context.options context.scope.visited step step') :
    context.run step = context.run step' := by
  have hwith : step.runWith context.setting context.store =
      step'.runWith context.setting context.store :=
    h context.scope.path context.scope.depth context.store
  rw [Context.run_eq, Context.run_eq, hwith]

theorem bind {step step' : LowerM α} {next next' : α → LowerM β}
    (h : SameRuns document options visited step step')
    (hnext : ∀ value, SameRuns document options visited (next value) (next' value)) :
    SameRuns document options visited (step >>= next) (step' >>= next') := by
  intro path depth store
  rw [runWith_bind, runWith_bind, h path depth store]
  rcases step'.runWith _ _ with ⟨_ | value, between⟩
  · rfl
  · exact hnext value path depth between

theorem map {step step' : LowerM α} (f : α → β) (h : SameRuns document options visited step step') :
    SameRuns document options visited (f <$> step) (f <$> step') := by
  intro path depth store
  rw [runWith_map, runWith_map, h path depth store]

theorem congruence : InlineCongruence (SameRuns document options visited) where
  pure _ := refl _
  options := refl _
  refuse _ := refl _
  warn _ := refl _
  bind h hnext := h.bind hnext
  withSegment segment h := fun path => h (path ++ [segment])
  descend segment h := fun path depth store => by
    rw [runWith_descend, runWith_descend]
    split
    · rfl
    · exact h (path ++ [segment]) (depth + 1) store

theorem scopedDependencies {step step' : LowerM α}
    (merge : List String → List String → List String)
    (h : SameRuns document options visited step step') :
    SameRuns document options visited (scopedDependencies merge step)
      (scopedDependencies merge step') := by
  intro path depth store
  rw [runWith_scopedDependencies, runWith_scopedDependencies, h path depth _]

theorem asDeclaration {step step' : LowerM α} (name : String)
    (h : SameRuns document options visited step step') :
    SameRuns document options visited (asDeclaration name step) (asDeclaration name step') :=
  fun path _ => (h.scopedDependencies fun outer _ => outer).map (·.1) (path ++ [name]) 0

/-! ## References -/

variable {reference : String}

theorem resolveNamed {target target' : LowerM String}
    (h : SameRuns document options visited target target') :
    SameRuns document options visited (resolveNamed target reference)
      (resolveNamed target' reference) := by
  intro path depth store
  rw [runWith_resolveNamed, runWith_resolveNamed, h.asDeclaration _ path depth store]

theorem resolveBelow {target target' : LowerM String}
    (h : SameRuns document options visited target target') :
    SameRuns document options visited (resolveBelow target reference)
      (resolveBelow target' reference) := by
  have hcollected : SameRuns document options visited (collectDependencies target)
      (collectDependencies target') := h.scopedDependencies _
  intro path depth store
  rw [runWith_resolveBelow, runWith_resolveBelow, hcollected.asDeclaration _ path depth _]

theorem resolveFresh {lower lower' : Schema → LowerM String}
    (h : ∀ target, document.resolve? reference = some target →
      SameRuns document options visited (lower target) (lower' target)) :
    SameRuns document options visited (resolveFresh lower reference)
      (resolveFresh lower' reference) := by
  intro path depth store
  rw [runWith_resolveFresh, runWith_resolveFresh]
  split
  · rfl
  · rfl
  · rename_i target _ htarget
    split
    · exact resolveNamed (h target htarget) path depth store
    · exact resolveBelow (h target htarget) path depth store

theorem resolveBy_of_mem (resolve : String → LowerM Resolution) (h : reference ∈ visited) :
    SameRuns document options visited (resolveBy resolve reference)
      (forwardReference reference) := by
  intro path depth store
  rw [Lowering.resolveBy, runWith_bind, runWith_scope]
  simp [Setting.within, h]

/-- How a reference resolves depends on the references in its target only. -/
theorem resolveBy {resolve resolve' : String → LowerM Resolution}
    (h : reference ∉ visited → ∀ target next, document.resolve? reference = some target →
      target.Mentions next → SameRuns document options (visited ++ [reference]) (resolve next)
        (resolve' next)) :
    SameRuns document options visited (resolveBy resolve reference)
      (resolveBy resolve' reference) := by
  by_cases hvisited : reference ∈ visited
  · exact (resolveBy_of_mem resolve hvisited).trans (resolveBy_of_mem resolve' hvisited).symm
  · have hfresh : SameRuns document options (visited ++ [reference])
        (Lowering.resolveFresh (typeOf fun target => Resolution.name <$> resolve target) reference)
        (Lowering.resolveFresh (typeOf fun target => Resolution.name <$> resolve' target)
          reference) :=
      resolveFresh fun target htarget => congruence.typeOf fun next hmention =>
        (h hvisited target next htarget hmention).map Resolution.name
    have hentered : SameRuns document options visited
        (withVisited reference
          (Lowering.resolveFresh (typeOf fun target => Resolution.name <$> resolve target) reference))
        (withVisited reference
          (Lowering.resolveFresh (typeOf fun target => Resolution.name <$> resolve' target)
            reference)) := by
      intro path depth store
      rw [runWith_withVisited_of_not_mem _ hvisited, runWith_withVisited_of_not_mem _ hvisited]
      exact hfresh path depth store
    refine bind (refl scope) fun scope => ?_
    split
    · exact refl _
    · exact hentered.bind fun name => refl _

end SameRuns

/-- Nothing is done beyond a bound that is greater than the number of strings left in the document: not
by the model's own recursion, and not by one that does something else there. -/
theorem sameRuns_resolveUpTo (hlocal : document.Local) {reference : String} {active bound : Nat}
    (beyond : String → LowerM Resolution)
    (hactive : reference ∈ visited ∨ document.pending (visited ++ [reference]) < active)
    (hpositive : 0 < bound)
    (hbound : reference ∈ visited ∨ document.pending (visited ++ [reference]) + 1 < bound) :
    SameRuns document options visited (resolveWithin active reference)
      (resolveUpTo beyond bound reference) := by
  obtain ⟨bound, rfl⟩ : ∃ rest, bound = rest + 1 := ⟨bound - 1, by omega⟩
  induction active generalizing visited reference bound with
  | zero =>
    exact (SameRuns.resolveBy_of_mem _ (hactive.resolve_right (Nat.not_lt_zero _))).symm
  | succ active ih =>
    refine SameRuns.resolveBy fun hvisited target next htarget hmention => ?_
    have hpending := hactive.resolve_left hvisited
    have hmore := hbound.resolve_left hvisited
    obtain ⟨bound, rfl⟩ : ∃ rest, bound = rest + 1 := ⟨bound - 1, by omega⟩
    have hnext := hlocal.pending_next hpending htarget hmention
    have hnext' : next ∈ visited ++ [reference] ∨
        document.pending (visited ++ [reference] ++ [next]) < bound :=
      hlocal.pending_next (by omega) htarget hmention
    exact ih hnext bound (Nat.succ_pos _) (hnext'.imp_right (Nat.succ_lt_succ ·))

theorem sameRuns_resolveReference (hlocal : document.Local) (reference : String) {bound : Nat}
    (beyond : String → LowerM Resolution) (hbound : document.referenceBound < bound) :
    SameRuns document options visited (resolveReference reference)
      (resolveUpTo beyond bound reference) := by
  have hpending := document.pending_lt_referenceBound (visited ++ [reference])
  have hsame : SameRuns document options visited
      (resolveWithin document.referenceBound reference) (resolveUpTo beyond bound reference) :=
    sameRuns_resolveUpTo hlocal beyond (Or.inr hpending) (Nat.zero_lt_of_lt hbound)
      (Or.inr (by omega))
  intro path depth store
  rw [runWith_resolveReference]
  exact hsame path depth store

/-- References resolve by the recursion that has no bound. -/
theorem sameRuns_resolveBy (hlocal : document.Local) (reference : String) :
    SameRuns document options visited (resolveReference reference)
      (resolveBy resolveReference reference) := by
  have hnext : ∀ (visited : List String) next, SameRuns document options visited
      (resolveUpTo forwardReference (document.referenceBound + 1) next) (resolveReference next) :=
    fun _ next => (sameRuns_resolveReference hlocal next _ (Nat.lt_succ_self _)).symm
  have hbound : document.referenceBound < document.referenceBound + 2 := by omega
  refine (sameRuns_resolveReference hlocal reference forwardReference hbound).trans ?_
  exact SameRuns.resolveBy fun _ _ next _ _ => hnext _ next

end SchemaTypings
