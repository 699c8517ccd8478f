import SchemaTypings.Proofs.Lowering.Reference
import SchemaTypings.Proofs.Lowering.Rules

/-!
# Relations between stores

What a step does to the store is often said by a relation between the stores before and after it, which
holds whether the step succeeds or fails. If the relation is a preorder that ignores dependencies and
warnings, it holds of every type expression, by the rules for them, once it holds of what resolves the
references (`Relates.inlineRules`). It may be asked for only where each reference to be followed is
allowed while those above it are being resolved.
-/

namespace SchemaTypings

open LowerM Lowering

/-- A relation between the stores before and after a step, while some references are being resolved. It
is a preorder, and does not depend on dependencies and warnings. -/
structure StoreRelation (rel : List String → Store → Store → Prop) : Prop where
  refl (visited : List String) (store : Store) : rel visited store store
  trans {visited : List String} {store between after : Store} : rel visited store between →
    rel visited between after → rel visited store after
  dependencies (visited : List String) (store : Store) (dependencies : List String) :
    rel visited store { store with dependencies }
  warnings (visited : List String) (store : Store) (warnings : List String) :
    rel visited store { store with warnings }

/-- Wherever the step is run, the stores before and after it are related, if the references that it asks
to follow are allowed. -/
def Relates (document : Document) (options : Options) (allowed : List String → String → Prop)
    (rel : List String → Store → Store → Prop) {α : Type} (visited : List String) (depth : Nat)
    (step : LowerM α) (demands : List Demand) : Prop :=
  (∀ reference, .follow reference ∈ demands → allowed visited reference) → ∀ path store,
    rel visited store (step.runWith (.within document options path visited depth) store).2

/-- What comes of entering a new reference, by whether it resolves. It is recorded in the end if it is that
of a named schema; another one is recorded from the start, and forgotten if it does not resolve. -/
structure Entering (document : Document) (rel : Store → Store → Prop) (reference : String)
    (ends : Bool → Store → Store → Prop) : Prop where
  refl (isOk : Bool) (store : Store) : ends isOk store store
  named {store inner : Store} : document.isNamed reference → rel store inner →
    ends false store inner ∧
      ends true store (inner.record reference (Name.ofReference reference))
  below {store inner : Store} : ¬document.isNamed reference →
    rel (store.enterBelow document reference) inner →
      ends false store (inner.forget reference) ∧
        ∀ declaration, declaration.name = (store.nameBelow document reference).1 →
          ends true store (inner.declare declaration)

namespace Relates

variable {document : Document} {options : Options} {allowed : List String → String → Prop}
  {rel : List String → Store → Store → Prop} (hrel : StoreRelation rel) {visited : List String}
  {depth : Nat} {α β : Type} {step : LowerM α} {demands others : List Demand}

theorem of_runWith (h : ∀ setting store, rel visited store (step.runWith setting store).2) :
    Relates document options allowed rel visited depth step demands :=
  fun _ path store => h (.within document options path visited depth) store

include hrel

/-- A step and the next one are related one after the other; the next one need be so only for what the
first one can give. -/
theorem bindYields {next : α → LowerM β}
    (h : Relates document options allowed rel visited depth step demands)
    (hnext : ∀ value, (∃ path store after,
        step.runWith (.within document options path visited depth) store = (.ok value, after)) →
      Relates document options allowed rel visited depth (next value) others) :
    Relates document options allowed rel visited depth (step >>= next) (demands ++ others) := by
  intro hallowed path store
  have hstep := h (fun reference h => hallowed reference (List.mem_append_left _ h)) path store
  rw [runWith_bind]
  rcases hrun : step.runWith (.within document options path visited depth) store with
    ⟨error | value, between⟩ <;> rw [hrun] at hstep
  · exact hstep
  · exact hrel.trans hstep (hnext value ⟨path, store, between, hrun⟩
      (fun reference h => hallowed reference (List.mem_append_right _ h)) path between)

theorem scopedDependencies (merge : List String → List String → List String)
    (h : Relates document options allowed rel visited depth step demands) :
    Relates document options allowed rel visited depth (scopedDependencies merge step) demands := by
  intro hallowed path store
  have hstart : rel visited store { store with dependencies := [] } := hrel.dependencies visited store []
  rw [runWith_scopedDependencies]
  exact hrel.trans (hrel.trans hstart (h hallowed path _)) (hrel.dependencies visited _ _)

theorem inlineRules : InlineRules options (Relates document options allowed rel) where
  congr h hsame hallowed := h fun reference hdemand => hallowed reference ((hsame _).mp hdemand)
  pure _ := of_runWith fun _ store => hrel.refl _ store
  bind h hnext := h.bindYields hrel fun value _ => hnext value
  readOptions h := h
  refuse _ := of_runWith fun _ store => hrel.refl _ store
  warn _ := of_runWith fun _ store => hrel.warnings _ store _
  withSegment segment h := fun hallowed path => h hallowed (path ++ [segment])
  descend {_ visited depth step _} segment h := fun hallowed path store => by
    by_cases hdeep : options.maxDepth < depth + 1
    · rw [runWith_descend_of_lt segment step hdeep]
      exact hrel.refl visited store
    · rw [runWith_descend_of_not_lt segment step hdeep]
      exact h (fun reference hdemand => hallowed reference (List.mem_append_right _ hdemand))
        (path ++ [segment]) store

theorem asDeclaration (name : String)
    (h : Relates document options allowed rel visited 0 step demands) :
    Relates document options allowed rel visited depth (asDeclaration name step) demands := by
  have hisolated := (inlineRules hrel).map (·.1) (h.scopedDependencies hrel fun outer _ => outer)
  exact fun hallowed path => hisolated hallowed (path ++ [name])

/-- If besides it allows for names to be claimed, the relation holds of every operation, once it holds of
the references. -/
theorem rules (hclaim : ∀ visited store base, rel visited store (store.claim base).2)
    (hreference : ∀ visited depth reference, Relates document options allowed rel visited depth
      (resolveReference reference) [.follow reference]) :
    Rules document options (Relates document options allowed rel) where
  toInlineRules := inlineRules hrel
  readDocument h := h
  collectDependencies h := h.scopedDependencies hrel _
  claimName base := of_runWith fun _ store => hclaim _ store base
  resolveReference {_ visited depth reference _ _} hnext := by
    refine bindYields hrel (hreference visited depth reference)
      fun resolution ⟨path, store, after, hrun⟩ => ?_
    rw [circular_of_resolveReference hrun]
    exact hnext resolution.name

/-! ## References -/

theorem forwardReference (reference : String) :
    Relates document options allowed rel visited depth (forwardReference reference) demands := by
  intro _ path store
  rw [runWith_forwardReference]
  exact hrel.dependencies visited store _

section

variable {reference : String} {ends : Bool → Store → Store → Prop}
  (hentering : Entering document (rel visited) reference ends)

include hentering

theorem resolveNamed {target : LowerM String} (hnamed : document.isNamed reference)
    (h : Relates document options allowed rel visited 0 target demands)
    (hallowed : ∀ next, .follow next ∈ demands → allowed visited next) (path : List String)
    (store : Store) :
    ends ((resolveNamed target reference).runWith
        (.within document options path visited depth) store).1.isOk store
      ((resolveNamed target reference).runWith
        (.within document options path visited depth) store).2 := by
  have hstep : Relates document options allowed rel visited depth
      (Lowering.asDeclaration (Name.ofReference reference) target) demands := h.asDeclaration hrel _
  have hends := hentering.named hnamed (hstep hallowed path store)
  rw [runWith_resolveNamed]
  generalize (Lowering.asDeclaration (Name.ofReference reference) target).runWith
    (.within document options path visited depth) store = ending at hends
  rcases ending with ⟨_ | _, inner⟩
  · exact hends.1
  · exact hends.2

theorem resolveBelow {target : LowerM String} (hnamed : ¬document.isNamed reference)
    (h : Relates document options allowed rel visited 0 target demands)
    (hallowed : ∀ next, .follow next ∈ demands → allowed visited next) (path : List String)
    (store : Store) :
    ends ((resolveBelow target reference).runWith
        (.within document options path visited depth) store).1.isOk store
      ((resolveBelow target reference).runWith
        (.within document options path visited depth) store).2 := by
  have hstep : Relates document options allowed rel visited depth
      (Lowering.asDeclaration (store.nameBelow document reference).1 (collectDependencies target))
      demands := (h.scopedDependencies hrel _).asDeclaration hrel _
  have hends := hentering.below hnamed (hstep hallowed path (store.enterBelow document reference))
  rw [runWith_resolveBelow]
  generalize (Lowering.asDeclaration (store.nameBelow document reference).1
    (collectDependencies target)).runWith (.within document options path visited depth)
      (store.enterBelow document reference) = ending at hends
  rcases ending with ⟨_ | ⟨_, _⟩, inner⟩
  · exact hends.1
  · exact hends.2 _ rfl

theorem resolveFresh {lower : Schema → LowerM String}
    (hlower : ∀ target, document.resolve? reference = some target →
      Relates document options allowed rel visited 0 (lower target) (target.demands options 0))
    (hallowed : ∀ target next, document.resolve? reference = some target → target.Mentions next →
      allowed visited next) (path : List String) (store : Store) :
    ends ((resolveFresh lower reference).runWith
        (.within document options path visited depth) store).1.isOk store
      ((resolveFresh lower reference).runWith
        (.within document options path visited depth) store).2 := by
  rw [runWith_resolveFresh]
  split
  · exact hentering.refl _ store
  · exact hentering.refl _ store
  · rename_i target _ htarget
    have hfollow : ∀ next, .follow next ∈ target.demands options 0 → allowed visited next :=
      fun next h => hallowed target next htarget (Schema.follow_mem_demands.mp h)
    split
    · exact resolveNamed hrel hentering ‹_› (hlower target htarget) hfollow path store
    · exact resolveBelow hrel hentering ‹_› (hlower target htarget) hfollow path store

end

/-- Resolving a reference, if what comes of entering it while those above are being resolved is related,
and what its target mentions is allowed. -/
theorem resolveWithin
    (henter : ∀ visited reference, allowed visited reference → reference ∉ visited →
      Entering document (rel (visited ++ [reference])) reference fun _ => rel visited)
    (hallowed : ∀ visited reference target next, allowed visited reference → reference ∉ visited →
      document.resolve? reference = some target → target.Mentions next →
        allowed (visited ++ [reference]) next) (active : Nat) (reference : String) :
    Relates document options allowed rel visited depth (resolveWithin active reference)
      [.follow reference] := by
  induction active generalizing visited depth reference with
  | zero => exact forwardReference hrel reference
  | succ active ih =>
    by_cases hvisited : reference ∈ visited
    · intro hmay path store
      rw [runWith_resolveWithin_of_mem _ hvisited]
      exact forwardReference hrel reference hmay path store
    · have hfresh : Relates document options allowed rel visited depth (withVisited reference
          (Lowering.resolveFresh (typeOf fun target => Resolution.name <$>
            Lowering.resolveWithin active target) reference)) [.follow reference] := by
        intro hmay path store
        have hreference : allowed visited reference := hmay reference (by simp)
        rw [runWith_withVisited_of_not_mem _ hvisited]
        refine resolveFresh hrel (henter visited reference hreference hvisited) (fun target _ =>
          (inlineRules hrel).typeOf fun next _ _ => (inlineRules hrel).map _ (ih next))
          (fun target next => hallowed visited reference target next hreference hvisited) path store
      intro hmay path store
      rw [runWith_resolveWithin_of_not_mem active hvisited]
      refine ((inlineRules hrel).bindNone hfresh fun name => ?_) hmay path store
      exact of_runWith fun _ store => hrel.dependencies _ store _

end Relates

end SchemaTypings
