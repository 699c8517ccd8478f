import SchemaTypings.Proofs.Lowering.Clear
import SchemaTypings.Proofs.Lowering.Relates

/-!
# Names of references are told apart

The name of a reference to a named schema is the type name of that schema. The name of any other reference,
reserved or claimed, is the type name of no named schema. A store in which that is so of everything that is
recorded is truthful; every operation leaves it truthful, and a reference that is resolved from it gets
such a name.
-/

namespace SchemaTypings

open LowerM Lowering

variable {raw : Json} {document : Document} {options : Options}

/-- The name denotes what the reference reaches: the type name of a named schema, or a name that no named
schema has as its type name. -/
def Document.Denotes (document : Document) (name reference : String) : Prop :=
  if document.isNamed reference then name = Name.ofReference reference
  else name ∉ Document.typeNames document.named

theorem Document.denotes_of_isNamed {reference name : String} (hnamed : document.isNamed reference) :
    document.Denotes name reference ↔ name = Name.ofReference reference := by
  rw [Denotes, if_pos hnamed]

theorem Document.denotes_of_not_isNamed {reference name : String}
    (hnamed : ¬document.isNamed reference) :
    document.Denotes name reference ↔ name ∉ typeNames document.named := by
  rw [Denotes, if_neg hnamed]

/-! ## Truthful stores -/

namespace Store

variable {store after inner : Store} {reference name : String}

/-- What is recorded for a reference denotes what it reaches, and no reserved name can be claimed. -/
structure Truthful (document : Document) (store : Store) : Prop where
  reserved : document.reservedNames ⊆ store.usedNames
  denotes : ∀ reference name, store.types.lookup reference = some name →
    document.Denotes name reference

theorem truthful_fresh : (fresh document).Truthful document where
  reserved := List.Subset.refl _
  denotes _ _ h := by cases h

namespace Truthful

theorem record (h : store.Truthful document) (hname : document.Denotes name reference) :
    (store.record reference name).Truthful document where
  reserved := h.reserved
  denotes := by
    intro other found hfound
    rw [lookup_record] at hfound
    split at hfound
    · rename_i heq
      subst heq
      cases hlookup : store.types.lookup other with
      | none =>
        rw [hlookup, Option.getD_none, Option.some_inj] at hfound
        exact hfound ▸ hname
      | some recorded =>
        rw [hlookup, Option.getD_some, Option.some_inj] at hfound
        exact hfound ▸ h.denotes other recorded hlookup
    · exact h.denotes other found hfound

theorem forget (h : store.Truthful document) (reference : String) :
    (store.forget reference).Truthful document where
  reserved := h.reserved
  denotes := by
    intro other found hfound
    rw [lookup_forget] at hfound
    split at hfound
    · cases hfound
    · exact h.denotes other found hfound

theorem claim (h : store.Truthful document) (base : String) :
    (store.claim base).2.Truthful document where
  reserved _ hname := List.mem_append_left _ (h.reserved hname)
  denotes := h.denotes

/-- A name that is claimed is the type name of no named schema. -/
theorem claim_not_mem (h : store.Truthful document) (base : String) :
    (store.claim base).1 ∉ Document.typeNames document.named := by
  intro hmem
  have hreserved : (store.claim base).1 ∈ document.reservedNames := List.mem_append_left _ hmem
  exact Name.fresh_not_mem "" (Name.pascal base) store.usedNames (h.reserved hreserved)

theorem nameBelow (hjson : Document.ofJson raw = .ok document) (h : store.Truthful document)
    (hnamed : ¬document.isNamed reference) :
    document.Denotes (store.nameBelow document reference).1 reference ∧
      (store.nameBelow document reference).2.Truthful document := by
  rw [Document.denotes_of_not_isNamed hnamed]
  unfold Store.nameBelow
  cases halias : document.alias? reference with
  | some reserved => exact ⟨Document.alias_not_mem_typeNames hjson halias, h⟩
  | none => exact ⟨h.claim_not_mem _, h.claim _⟩

theorem enterBelow (hjson : Document.ofJson raw = .ok document) (h : store.Truthful document)
    (hnamed : ¬document.isNamed reference) :
    (store.enterBelow document reference).Truthful document := by
  obtain ⟨hdenotes, hafter⟩ := h.nameBelow hjson hnamed
  exact hafter.record hdenotes

end Truthful

/-- A store after another one is truthful if that one is. -/
def StaysTruthful (document : Document) (_ : List String) (store after : Store) : Prop :=
  store.Truthful document → after.Truthful document

theorem storeRelation_staysTruthful : StoreRelation (StaysTruthful document) where
  refl _ _ h := h
  trans h h' hstore := h' (h hstore)
  dependencies _ _ _ h := ⟨h.reserved, h.denotes⟩
  warnings _ _ _ h := ⟨h.reserved, h.denotes⟩

theorem StaysTruthful.entering (hjson : Document.ofJson raw = .ok document) (visited : List String)
    (reference : String) :
    Entering document (StaysTruthful document (visited ++ [reference])) reference
      fun _ => StaysTruthful document visited where
  refl _ _ h := h
  named hnamed h := by
    refine ⟨h, fun hstore => (h hstore).record ?_⟩
    exact (Document.denotes_of_isNamed hnamed).mpr rfl
  below {store inner} hnamed h := by
    have hinner : store.Truthful document → inner.Truthful document := fun hstore =>
      h (hstore.enterBelow hjson hnamed)
    refine ⟨fun hstore => (hinner hstore).forget reference, fun _ _ hstore => ?_⟩
    exact ⟨(hinner hstore).reserved, (hinner hstore).denotes⟩

end Store

/-! ## References -/

namespace Lowering

variable {path visited : List String} {depth : Nat} {store after : Store} {reference name : String}

theorem truthful_resolveReference (h : Document.ofJson raw = .ok document)
    (htruthful : store.Truthful document) (options : Options) (path visited : List String)
    (depth : Nat) (reference : String) :
    ((resolveReference reference).runWith (.within document options path visited depth)
      store).2.Truthful document := by
  have hstays : Relates document options (fun _ _ => True) (Store.StaysTruthful document) visited depth
      (resolveWithin document.referenceBound reference) [.follow reference] :=
    Relates.resolveWithin Store.storeRelation_staysTruthful
      (fun visited reference _ _ => Store.StaysTruthful.entering h visited reference)
      (fun _ _ _ _ _ _ _ _ => trivial) _ reference
  rw [runWith_resolveReference]
  exact hstays (fun _ _ => trivial) path store htruthful

theorem denotes_of_resolveFresh (h : Document.ofJson raw = .ok document)
    (htruthful : store.Truthful document) {lower : Schema → LowerM String}
    (hrun : (resolveFresh lower reference).runWith (.within document options path visited depth) store =
      (.ok name, after)) : document.Denotes name reference := by
  rw [runWith_resolveFresh] at hrun
  split at hrun
  · rename_i hlookup
    cases hrun
    exact htruthful.denotes reference _ hlookup
  · cases hrun
  · split at hrun
    · rename_i hnamed
      obtain ⟨_, _, _, rfl, _⟩ := resolveNamed_eq_ok.mp hrun
      exact (Document.denotes_of_isNamed hnamed).mpr rfl
    · rename_i hnamed
      obtain ⟨_, _, _, _, rfl, _⟩ := resolveBelow_eq_ok.mp hrun
      exact (htruthful.nameBelow h hnamed).1

/-- A forward reference to a named schema. -/
theorem denotes_forwardName (h : Document.ofJson raw = .ok document)
    (htruthful : store.Truthful document) (hnamed : document.isNamed reference) :
    document.Denotes ((store.types.lookup reference <|> document.alias? reference).getD
      (Name.ofReference reference)) reference := by
  cases hlookup : store.types.lookup reference with
  | some recorded => exact htruthful.denotes reference recorded hlookup
  | none =>
    rw [Document.alias?_eq_none_of_isNamed h hnamed]
    exact (Document.denotes_of_isNamed hnamed).mpr rfl

/-- From a truthful store, a reference resolves to a name that denotes what it reaches, and that name is
the only dependency that this adds; if it does not resolve, this adds none. The references that are being
resolved are those of named schemas. -/
theorem runWith_resolveReference_of_truthful (h : Document.ofJson raw = .ok document)
    (htruthful : store.Truthful document) (hvisited : ∀ other ∈ visited, document.isNamed other)
    (options : Options) (path : List String) (depth : Nat) (reference : String) :
    match (resolveReference reference).runWith (.within document options path visited depth) store with
    | (.ok resolution, after) => document.Denotes resolution.name reference ∧
        after.dependencies = addName store.dependencies resolution.name
    | (.error _, after) => after.dependencies = store.dependencies := by
  rw [runWith_resolveReference, Document.referenceBound]
  by_cases hmem : reference ∈ visited
  · rw [runWith_resolveWithin_of_mem _ hmem, runWith_forwardReference]
    exact ⟨denotes_forwardName h htruthful (hvisited reference hmem), rfl⟩
  · rw [runWith_resolveWithin_of_not_mem _ hmem, resolveNew, runWith_bind,
      runWith_withVisited_of_not_mem _ hmem]
    generalize typeOf (fun target => Resolution.name <$> resolveWithin document.raw.strings.length
      target) = lower
    have hdependencies : ((resolveFresh lower reference).runWith
        (.within document options path (visited ++ [reference]) depth) store).2.dependencies =
          store.dependencies := dependencies_resolveFresh lower reference path _ depth store
    rcases hrun : (resolveFresh lower reference).runWith
      (.within document options path (visited ++ [reference]) depth) store with
        ⟨error | name, between⟩ <;> rw [hrun] at hdependencies
    · exact hdependencies
    · refine ⟨denotes_of_resolveFresh h htruthful hrun, ?_⟩
      show addName between.dependencies name = _
      rw [hdependencies]

end Lowering

end SchemaTypings
