import SchemaTypings.Lowering.Reference
import SchemaTypings.Proofs.Lookup
import SchemaTypings.Proofs.Lowering.Run

/-!
# Runs that resolve references

What a run that resolves a reference does to the store, apart from the run that lowers its target.
-/

namespace SchemaTypings

/-! ## Recorded references -/

namespace Store

variable {store : Store} {reference other name : String}

/-- `store.Records reference`: a type name is recorded for the reference. -/
def Records (store : Store) (reference : String) : Prop :=
  (store.types.lookup reference).isSome

instance (store : Store) (reference : String) : Decidable (store.Records reference) :=
  inferInstanceAs (Decidable (_ = true))

theorem not_records_iff : ¬store.Records reference ↔ store.types.lookup reference = none := by
  rw [Records, Bool.not_eq_true, Option.isSome_eq_false_iff, Option.isNone_iff_eq_none]

theorem lookup_record :
    (store.record reference name).types.lookup other =
      if other = reference then some ((store.types.lookup reference).getD name)
      else store.types.lookup other := by
  simp only [record, Memo.addType]
  cases hlookup : store.types.lookup reference with
  | some found =>
    by_cases h : other = reference <;> simp [h, hlookup]
  | none =>
    rw [if_neg (by simp), List.lookup_append, lookup_cons_eq_ite]
    by_cases h : other = reference <;> simp [h, hlookup]

theorem lookup_forget :
    (store.forget reference).types.lookup other =
      if other = reference then none else store.types.lookup other :=
  lookup_filter_ne

theorem records_record :
    (store.record reference name).Records other ↔ store.Records other ∨ other = reference := by
  by_cases h : other = reference
  · subst h
    cases hlookup : store.types.lookup other <;> simp [Records, lookup_record, hlookup]
  · simp [Records, lookup_record, h]

theorem records_forget :
    (store.forget reference).Records other ↔ store.Records other ∧ other ≠ reference := by
  by_cases h : other = reference <;> simp [Records, lookup_forget, h]

/-- The name for a reference below a named schema, and the store after it is chosen: the reserved one,
or one that is claimed. -/
def nameBelow (document : Document) (reference : String) (store : Store) : String × Store :=
  match document.alias? reference with
  | some reserved => (reserved, store)
  | none => store.claim (Name.ofPointer reference)

@[simp]
theorem types_nameBelow {document : Document} :
    (store.nameBelow document reference).2.types = store.types := by
  unfold nameBelow
  split <;> rfl

/-- The store in which the target of a reference below a named schema is lowered. -/
def enterBelow (document : Document) (reference : String) (store : Store) : Store :=
  (store.nameBelow document reference).2.record reference (store.nameBelow document reference).1

theorem records_enterBelow {document : Document} :
    (store.enterBelow document reference).Records other ↔
      store.Records other ∨ other = reference := by
  rw [enterBelow, records_record]
  simp [Records]

end Store

namespace Lowering

open LowerM

variable {document : Document} {options : Options} {path visited : List String} {depth : Nat}
  {store after : Store} {reference name : String}

theorem runWith_forwardReference :
    (forwardReference reference).runWith (.within document options path visited depth) store =
      (.ok ⟨(store.types.lookup reference <|> document.alias? reference).getD
        (Name.ofReference reference), true⟩, store.depend ((store.types.lookup reference <|>
          document.alias? reference).getD (Name.ofReference reference))) := rfl

/-- A step that lowers the target of a reference: at the root of a declaration of its own, under the
name. -/
def asDeclaration {α : Type} (name : String) (step : LowerM α) : LowerM α :=
  atDeclarationRoot (withSegment name (isolateDependencies step))

theorem runWith_resolveNamed (target : LowerM String) :
    (resolveNamed target reference).runWith (.within document options path visited depth) store =
      match (asDeclaration (Name.ofReference reference) target).runWith
        (.within document options path visited depth) store with
      | (.ok _, after) => (.ok (Name.ofReference reference),
          after.record reference (Name.ofReference reference))
      | (.error error, after) => (.error error, after) := by
  simp only [resolveNamed, asDeclaration, runWith_bind]
  rcases (atDeclarationRoot _).runWith _ store with ⟨_ | _, _⟩ <;> rfl

/-- A reference to a named schema resolves to the name of its last segment if its target lowers, and
is recorded then. -/
theorem resolveNamed_eq_ok {target : LowerM String} :
    (resolveNamed target reference).runWith (.within document options path visited depth) store =
        (.ok name, after) ↔ ∃ type inner, (asDeclaration (Name.ofReference reference) target).runWith
          (.within document options path visited depth) store = (.ok type, inner) ∧
        name = Name.ofReference reference ∧
        after = inner.record reference (Name.ofReference reference) := by
  rw [runWith_resolveNamed]
  rcases (asDeclaration (Name.ofReference reference) target).runWith
    (.within document options path visited depth) store with ⟨_ | type, inner⟩
  · simp
  · simp only [Prod.mk.injEq, Except.ok.injEq]
    constructor
    · rintro ⟨rfl, rfl⟩
      exact ⟨type, inner, ⟨rfl, rfl⟩, rfl, rfl⟩
    · rintro ⟨_, _, ⟨rfl, rfl⟩, rfl, rfl⟩
      exact ⟨rfl, rfl⟩

theorem runWith_resolveBelow (target : LowerM String) :
    (resolveBelow target reference).runWith (.within document options path visited depth) store =
      match (asDeclaration (store.nameBelow document reference).1
        (collectDependencies target)).runWith (.within document options path visited depth)
          (store.enterBelow document reference) with
      | (.ok (type, dependencies), after) =>
        (.ok (store.nameBelow document reference).1, after.declare (aliasDeclaration options
          (store.nameBelow document reference).1 type dependencies))
      | (.error error, after) => (.error error, after.forget reference) := by
  have hdocument : (Setting.within document options path visited depth).document = document := rfl
  simp only [resolveBelow, asDeclaration, runWith_bind, runWith_document, Store.enterBelow,
    Store.nameBelow, hdocument]
  cases document.alias? reference with
  | some reserved =>
    simp only [runWith_bind, runWith_pure, runWith_modify, runWith_attempt]
    rcases (atDeclarationRoot _).runWith _ _ with ⟨_ | ⟨_, _⟩, _⟩ <;> rfl
  | none =>
    simp only [runWith_bind, runWith_claimName, runWith_modify, runWith_attempt]
    rcases (atDeclarationRoot _).runWith _ _ with ⟨_ | ⟨_, _⟩, _⟩ <;> rfl

/-- A reference below a named schema resolves to the name chosen for it if its target lowers, and an
alias is declared then. -/
theorem resolveBelow_eq_ok {target : LowerM String} :
    (resolveBelow target reference).runWith (.within document options path visited depth) store =
        (.ok name, after) ↔ ∃ type dependencies inner,
      (asDeclaration (store.nameBelow document reference).1 (collectDependencies target)).runWith
          (.within document options path visited depth) (store.enterBelow document reference) =
            (.ok (type, dependencies), inner) ∧
        name = (store.nameBelow document reference).1 ∧
        after = inner.declare (aliasDeclaration options name type dependencies) := by
  rw [runWith_resolveBelow]
  rcases (asDeclaration (store.nameBelow document reference).1
    (collectDependencies target)).runWith (.within document options path visited depth)
      (store.enterBelow document reference) with ⟨_ | ⟨type, dependencies⟩, inner⟩
  · simp
  · simp only [Prod.mk.injEq, Except.ok.injEq]
    constructor
    · rintro ⟨rfl, rfl⟩
      exact ⟨type, dependencies, inner, ⟨⟨rfl, rfl⟩, rfl⟩, rfl, rfl⟩
    · rintro ⟨_, _, _, ⟨⟨rfl, rfl⟩, rfl⟩, rfl, rfl⟩
      exact ⟨rfl, rfl⟩

theorem runWith_resolveFresh (lower : Schema → LowerM String) :
    (resolveFresh lower reference).runWith (.within document options path visited depth) store =
      match store.types.lookup reference, document.resolve? reference with
      | some name, _ => (.ok name, store)
      | none, none =>
        (.error (.unresolved reference (Scope.pathText ⟨path, visited, depth⟩)), store)
      | none, some target =>
        (if document.isNamed reference then resolveNamed (lower target) reference
          else resolveBelow (lower target) reference).runWith
            (.within document options path visited depth) store := by
  have hdocument : (Setting.within document options path visited depth).document = document := rfl
  simp only [resolveFresh, runWith_bind, runWith_recorded?]
  cases store.types.lookup reference with
  | some name => rfl
  | none =>
    simp only [runWith_bind, runWith_document, hdocument]
    cases document.resolve? reference <;> rfl

theorem runWith_resolveWithin_of_mem (active : Nat) (h : reference ∈ visited) :
    (resolveWithin active reference).runWith (.within document options path visited depth) store =
      (forwardReference reference).runWith (.within document options path visited depth) store := by
  cases active with
  | zero => rfl
  | succ active =>
    rw [resolveWithin, runWith_bind, runWith_scope]
    simp [Setting.within, h]

/-- A reference that is not being resolved, resolved with what its target lowers to. -/
def resolveNew (active : Nat) (reference : String) : LowerM Resolution := do
  let name ← withVisited reference (resolveFresh
    (typeOf fun target => Resolution.name <$> resolveWithin active target) reference)
  modify (Store.depend name)
  return ⟨name, false⟩

theorem runWith_resolveWithin_of_not_mem (active : Nat) (h : reference ∉ visited) :
    (resolveWithin (active + 1) reference).runWith (.within document options path visited depth)
      store = (resolveNew active reference).runWith
        (.within document options path visited depth) store := by
  rw [resolveWithin, runWith_bind, runWith_scope]
  simp [Setting.within, h, resolveNew]

theorem runWith_resolveReference :
    (resolveReference reference).runWith (.within document options path visited depth) store =
      (resolveWithin document.referenceBound reference).runWith
        (.within document options path visited depth) store := by
  rw [resolveReference, runWith_bind, runWith_document]
  rfl

theorem circular_of_resolveReference {resolution : Resolution}
    (h : (resolveReference reference).runWith (.within document options path visited depth) store =
      (.ok resolution, after)) : resolution = ⟨resolution.name, visited.contains reference⟩ := by
  rw [runWith_resolveReference, Document.referenceBound] at h
  by_cases hvisited : reference ∈ visited
  · rw [runWith_resolveWithin_of_mem _ hvisited, runWith_forwardReference] at h
    cases h
    simp [hvisited]
  · rw [runWith_resolveWithin_of_not_mem _ hvisited, resolveNew, runWith_bind_eq_ok] at h
    obtain ⟨name, between, -, h⟩ := h
    cases h
    simp [hvisited]

end Lowering

end SchemaTypings
