import Mathlib.Logic.Relation
import SchemaTypings.Proofs.Lowering.Relates

/-!
# What lowering does to a store

Every run of a step, whether it succeeds or fails, takes the store through a number of single changes
(`Store.Change`). What a change keeps is so kept by every operation, and holds at every point of it.
-/

namespace SchemaTypings

open LowerM Lowering Relation

/-- A single change of the store. A name is recorded for the reference to a named schema if it is the
one of that reference, or that of the schema, and for another reference if no other one is reserved. -/
inductive Store.Change (document : Document) : Store → Store → Prop
  | dependencies (store : Store) (dependencies : List String) :
    Change document store { store with dependencies }
  | warnings (store : Store) (warnings : List String) : Change document store { store with warnings }
  | claim (store : Store) (base : String) : Change document store (store.claim base).2
  | declare (store : Store) (declaration : Typing.Declaration) :
    Change document store (store.declare declaration)
  | forget (store : Store) (reference : String) : Change document store (store.forget reference)
  | recordNamed (store : Store) {reference : String} (hnamed : document.isNamed reference) :
    Change document store (store.record reference (Name.ofReference reference))
  | recordEntry (store : Store) {entry : NamedSchema} (hentry : entry ∈ document.named) :
    Change document store (store.record entry.pointer (Name.pascal entry.name))
  | recordBelow (store : Store) {reference name : String} (hnamed : ¬document.isNamed reference)
    (hname : ∀ reserved, document.alias? reference = some reserved → name = reserved) :
    Change document store (store.record reference name)

theorem Store.names_of_changes {document : Document} {store after : Store}
    (h : ReflTransGen (Change document) store after) : store.usedNames ⊆ after.usedNames := by
  induction h with
  | refl => exact fun _ => id
  | tail _ hchange ih =>
    cases hchange with
    | claim => exact fun name hname => List.mem_append_left _ (ih hname)
    | _ => exact ih

/-- Entering a reference below a named schema claims a name for it, if none is reserved, and records
it. -/
theorem Store.changes_enterBelow {document : Document} {reference : String}
    (hnamed : ¬document.isNamed reference) (store : Store) :
    ReflTransGen (Change document) store (store.enterBelow document reference) := by
  have hname : ReflTransGen (Change document) store (store.nameBelow document reference).2 := by
    unfold nameBelow
    split
    · exact .refl
    · exact .single (.claim store _)
  refine hname.tail (.recordBelow _ hnamed fun reserved hreserved => ?_)
  simp [nameBelow, hreserved]

theorem Store.storeRelation_changes (document : Document) :
    StoreRelation fun _ => ReflTransGen (Change document) where
  refl _ _ := .refl
  trans := .trans
  dependencies _ store _ := .single (.dependencies store _)
  warnings _ store _ := .single (.warnings store _)

/-- The step takes every store through changes, wherever it is run. -/
def Changes (document : Document) (options : Options) {α : Type} (visited : List String) (depth : Nat)
    (step : LowerM α) (demands : List Demand) : Prop :=
  Relates document options (fun _ _ => True) (fun _ => ReflTransGen (Store.Change document)) visited
    depth step demands

namespace Changes

variable {document : Document} {options : Options} {visited : List String} {depth : Nat}
  {α : Type} {step : LowerM α} {demands : List Demand}

theorem run (h : Changes document options visited depth step demands) (path : List String)
    (store : Store) : ReflTransGen (Store.Change document) store
      (step.runWith (.within document options path visited depth) store).2 :=
  h (fun _ _ => trivial) path store

/-- A name is recorded when a reference has been entered, or a change is forgotten. -/
theorem entering {reference : String} : Entering document (ReflTransGen (Store.Change document))
    reference fun _ => ReflTransGen (Store.Change document) where
  refl _ _ := .refl
  named hnamed h := ⟨h, h.tail (.recordNamed _ hnamed)⟩
  below {store _} hnamed h :=
    have henter := store.changes_enterBelow hnamed
    ⟨(henter.trans h).tail (.forget _ _), fun _ _ => (henter.trans h).tail (.declare _ _)⟩

theorem resolveNamed {target : LowerM String} {reference : String}
    (hnamed : document.isNamed reference)
    (h : Changes document options visited 0 target demands) :
    Changes document options visited depth (resolveNamed target reference) demands :=
  fun _ => Relates.resolveNamed (Store.storeRelation_changes document) entering hnamed h
    fun _ _ => trivial

theorem resolveBelow {target : LowerM String} {reference : String}
    (hnamed : ¬document.isNamed reference)
    (h : Changes document options visited 0 target demands) :
    Changes document options visited depth (resolveBelow target reference) demands :=
  fun _ => Relates.resolveBelow (Store.storeRelation_changes document) entering hnamed h
    fun _ _ => trivial

theorem resolveFresh {lower : Schema → LowerM String} {reference : String}
    (hlower : ∀ target, document.resolve? reference = some target →
      Changes document options visited 0 (lower target) (target.demands options 0)) :
    Changes document options visited depth (resolveFresh lower reference) demands :=
  fun _ => Relates.resolveFresh (Store.storeRelation_changes document) entering hlower
    fun _ _ _ _ => trivial

theorem resolveWithin (active : Nat) (reference : String) :
    Changes document options visited depth (resolveWithin active reference) [.follow reference] :=
  Relates.resolveWithin (Store.storeRelation_changes document) (fun _ _ _ _ => entering)
    (fun _ _ _ _ _ _ _ _ => trivial) active reference

theorem resolveReference (reference : String) :
    Changes document options visited depth (resolveReference reference) [.follow reference] :=
  fun hallowed path store => by
    rw [runWith_resolveReference]
    exact resolveWithin _ reference hallowed path store

theorem rules : Rules document options (Changes document options) :=
  Relates.rules (Store.storeRelation_changes document) (fun _ store base => .single (.claim store base))
    fun _ _ reference => resolveReference reference

theorem lowerNamed {entry : NamedSchema} (hentry : entry ∈ document.named) (path : List String)
    (store : Store) : ReflTransGen (Store.Change document) store
      ((lowerNamed entry).runWith (.within document options path visited depth) store).2 := by
  have hdeclare : ReflTransGen (Store.Change document) store ((withVisited entry.pointer
      (Lowering.declare (Name.pascal entry.name) entry.schema)).runWith
        (.within document options path visited depth) store).2 := by
    by_cases h : entry.pointer ∈ visited
    · rw [runWith_withVisited_of_mem _ h]
      exact (rules.declare _ _).run path store
    · rw [runWith_withVisited_of_not_mem _ h]
      exact (rules.declare _ _).run path store
  rw [runWith_lowerNamed]
  rcases hrun : (withVisited entry.pointer (Lowering.declare (Name.pascal entry.name)
    entry.schema)).runWith (.within document options path visited depth) store with
      ⟨_ | _, inner⟩ <;> rw [hrun] at hdeclare
  · exact hdeclare.tail (.forget inner _)
  · exact hdeclare.tail (.recordEntry inner hentry)

end Changes

end SchemaTypings
