import Mathlib.Data.List.Perm.Subperm
import SchemaTypings.Proofs.Lowering.OwnName
import SchemaTypings.Proofs.Lowering.Paired

/-!
# Claimed names

The name of a part is claimed, and then used for that part only. Aliases of references below named schemas are
declared under names that are reserved for them, or claimed as well. A name is claimed only if it is not taken.
So no name of a part is reserved, and no two of them, or of them and the aliases, are equal: this is an
invariant of the store together with the names claimed for parts so far (`Store.Claimed`). Every operation
leaves those names alone, whether it succeeds or fails (`Lowering.rules_staysClaimed`): what is claimed on the
way to a failure stays taken, but is used for nothing.
-/

namespace SchemaTypings

open LowerM Lowering Typing

variable {raw : Json} {document : Document}

/-! ## Stores -/

namespace Store

variable {store inner : Store} {claimed fewer : List String} {name reference : String}
  {declaration : Declaration}

/-- The names of declared aliases and the claimed ones are taken, and no two of them are equal. No claimed name
is reserved, and no alias has the type name of a named schema. -/
structure Claimed (document : Document) (claimed : List String) (store : Store) : Prop where
  reserved : document.reservedNames ⊆ store.usedNames
  taken : store.declared ++ claimed ⊆ store.usedNames
  distinct : (store.declared ++ claimed).Nodup
  unreserved : ∀ name ∈ claimed, name ∉ document.reservedNames
  aliases : ∀ name ∈ store.declared, name ∉ Document.typeNames document.named

theorem claimed_fresh : (fresh document).Claimed document [] where
  reserved := List.Subset.refl _
  taken := List.nil_subset _
  distinct := List.nodup_nil
  unreserved := by simp
  aliases := by simp [declared, fresh]

theorem declare_of_mem (h : declaration.name ∈ store.declared) : store.declare declaration = store := by
  have hany : store.declarations.any (·.name == declaration.name) = true := by
    obtain ⟨other, hother, hname⟩ := List.mem_map.mp h
    exact List.any_eq_true.mpr ⟨other, hother, beq_iff_eq.mpr hname⟩
  simp only [declare, Memo.addDeclaration, hany, if_true]

namespace Claimed

/-- Names that are not needed any more need not be counted. -/
theorem drop (h : store.Claimed document claimed) (hfewer : fewer.Subperm claimed) : store.Claimed document fewer where
  reserved := h.reserved
  taken := by
    intro name hname
    refine h.taken (List.mem_append.mpr ((List.mem_append.mp hname).imp_right fun hname => ?_))
    exact hfewer.subset hname
  distinct := by
    obtain ⟨others, hperm, hsublist⟩ := (List.subperm_append_left store.declared).mpr hfewer
    exact hperm.nodup_iff.mp (h.distinct.sublist hsublist)
  unreserved name hname := h.unreserved name (hfewer.subset hname)
  aliases := h.aliases

/-- A name that is claimed is claimed. -/
theorem claim (h : store.Claimed document claimed) (base : String) :
    (store.claim base).2.Claimed document ((store.claim base).1 :: claimed) := by
  have hfree : (store.claim base).1 ∉ store.usedNames :=
    Name.fresh_not_mem "" (Name.pascal base) store.usedNames
  have hold : store.usedNames ⊆ (store.claim base).2.usedNames := List.subset_append_left _ _
  refine ⟨List.Subset.trans h.reserved hold, ?_, ?_, ?_, h.aliases⟩
  · intro name hname
    rcases List.mem_append.mp hname with hname | hname
    · exact hold (h.taken (List.mem_append_left _ hname))
    · rcases List.mem_cons.mp hname with rfl | hname
      · exact List.mem_append_right _ (List.mem_singleton_self _)
      · exact hold (h.taken (List.mem_append_right _ hname))
  · refine List.nodup_middle.mpr (List.nodup_cons.mpr ⟨fun hmem => hfree (h.taken hmem), h.distinct⟩)
  · intro name hname
    rcases List.mem_cons.mp hname with rfl | hname
    · exact fun hreserved => hfree (h.reserved hreserved)
    · exact h.unreserved name hname

/-- An alias that is declared under a claimed name has that name for itself. -/
theorem declareClaimed (h : store.Claimed document (name :: claimed)) (hname : declaration.name = name) :
    (store.declare declaration).Claimed document claimed := by
  have hnodup := List.nodup_cons.mp (List.nodup_middle.mp h.distinct)
  have hdeclared : (store.declare declaration).declared = store.declared ++ [name] := by
    rw [declared_declare, hname]
    rw [hname]
    exact fun hmem => hnodup.1 (List.mem_append_left _ hmem)
  have hsame : (store.declare declaration).declared ++ claimed = store.declared ++ name :: claimed := by
    rw [hdeclared, List.append_assoc, List.singleton_append]
  refine ⟨h.reserved, hsame ▸ h.taken, hsame ▸ h.distinct,
    fun other hother => h.unreserved other (List.mem_cons_of_mem _ hother), ?_⟩
  rw [hdeclared]
  intro other hother
  rcases List.mem_append.mp hother with hother | hother
  · exact h.aliases other hother
  · rw [List.mem_singleton.mp hother]
    exact fun hmem => h.unreserved name List.mem_cons_self (List.mem_append_left _ hmem)

/-- An alias that is declared under the name reserved for it has no claimed name. -/
theorem declareReserved (hjson : Document.ofJson raw = .ok document) (h : store.Claimed document claimed)
    (hname : document.alias? reference = some declaration.name) :
    (store.declare declaration).Claimed document claimed := by
  by_cases hmem : declaration.name ∈ store.declared
  · rw [declare_of_mem hmem]
    exact h
  · have hreserved := Document.alias_mem_reservedNames hname
    have hdeclared := declared_declare hmem
    have hclaimed : declaration.name ∉ claimed := fun hclaimed => h.unreserved _ hclaimed hreserved
    have hsame : (store.declare declaration).declared ++ claimed =
        store.declared ++ declaration.name :: claimed := by
      rw [hdeclared, List.append_assoc, List.singleton_append]
    refine ⟨h.reserved, ?_, ?_, h.unreserved, ?_⟩
    · rw [hsame]
      intro other hother
      rcases List.mem_append.mp hother with hother | hother
      · exact h.taken (List.mem_append_left _ hother)
      · rcases List.mem_cons.mp hother with rfl | hother
        · exact h.reserved hreserved
        · exact h.taken (List.mem_append_right _ hother)
    · rw [hsame]
      refine List.nodup_middle.mpr (List.nodup_cons.mpr ⟨?_, h.distinct⟩)
      exact fun hother => (List.mem_append.mp hother).elim hmem hclaimed
    · rw [hdeclared]
      intro other hother
      rcases List.mem_append.mp hother with hother | hother
      · exact h.aliases other hother
      · rw [List.mem_singleton.mp hother]
        exact Document.alias_not_mem_typeNames hjson hname

end Claimed

/-- What was claimed before is still so in a store after another one. -/
def StaysClaimed (document : Document) (_ : List String) (store after : Store) : Prop :=
  ∀ claimed, store.Claimed document claimed → after.Claimed document claimed

theorem storeRelation_staysClaimed : StoreRelation (StaysClaimed document) where
  refl _ _ _ := id
  trans h h' claimed hstore := h' claimed (h claimed hstore)
  dependencies _ _ _ _ h := ⟨h.reserved, h.taken, h.distinct, h.unreserved, h.aliases⟩
  warnings _ _ _ _ h := ⟨h.reserved, h.taken, h.distinct, h.unreserved, h.aliases⟩

/-- What is recorded makes no difference. -/
theorem Claimed.recorded {types : List (String × String)} (h : store.Claimed document claimed) :
    { store with types }.Claimed document claimed :=
  ⟨h.reserved, h.taken, h.distinct, h.unreserved, h.aliases⟩

/-- The name for a reference below a named schema is reserved for it, or claimed until it is declared. -/
theorem StaysClaimed.entering (hjson : Document.ofJson raw = .ok document) (visited : List String)
    (reference : String) :
    Entering document (StaysClaimed document (visited ++ [reference])) reference
      fun _ => StaysClaimed document visited where
  refl _ _ _ := id
  named _ h := ⟨h, fun claimed hstore => (h claimed hstore).recorded⟩
  below {store inner} _ h := by
    cases halias : document.alias? reference with
    | some reserved =>
      have hbelow : store.nameBelow document reference = (reserved, store) := by
        simp [nameBelow, halias]
      have hinner : ∀ claimed, store.Claimed document claimed → inner.Claimed document claimed := by
        intro claimed hstore
        refine h claimed ?_
        rw [enterBelow, hbelow]
        exact hstore.recorded
      refine ⟨fun claimed hstore => (hinner claimed hstore).recorded, fun declaration hname claimed hstore => ?_⟩
      rw [hbelow] at hname
      exact (hinner claimed hstore).declareReserved hjson (halias.trans (congrArg some hname.symm))
    | none =>
      have hbelow : store.nameBelow document reference = store.claim (Name.ofPointer reference) := by
        simp [nameBelow, halias]
      have hinner : ∀ claimed, store.Claimed document claimed →
          inner.Claimed document ((store.claim (Name.ofPointer reference)).1 :: claimed) := by
        intro claimed hstore
        refine h _ ?_
        rw [enterBelow, hbelow]
        exact (hstore.claim _).recorded
      refine ⟨fun claimed hstore => ?_, fun declaration hname claimed hstore => ?_⟩
      · exact ((hinner claimed hstore).drop (List.sublist_cons_self _ _).subperm).recorded
      · rw [hbelow] at hname
        exact (hinner claimed hstore).declareClaimed hname

end Store

namespace Lowering

variable (h : Document.ofJson raw = .ok document) (options : Options)

include h

theorem staysClaimed_resolveReference (visited : List String) (depth : Nat) (reference : String) :
    Relates document options (fun _ _ => True) (Store.StaysClaimed document) visited depth
      (resolveReference reference) [.follow reference] := by
  intro hallowed path store
  have hstays : Relates document options (fun _ _ => True) (Store.StaysClaimed document) visited depth
      (resolveWithin document.referenceBound reference) [.follow reference] :=
    Relates.resolveWithin Store.storeRelation_staysClaimed
      (fun visited reference _ _ => Store.StaysClaimed.entering h visited reference)
      (fun _ _ _ _ _ _ _ _ => trivial) _ reference
  rw [runWith_resolveReference]
  exact hstays hallowed path store

/-- What was claimed before an operation is still so after it. -/
theorem rules_staysClaimed : Rules document options
    (Relates document options (fun _ _ => True) (Store.StaysClaimed document)) :=
  Relates.rules Store.storeRelation_staysClaimed
    (fun _ _ base _ hstore => (hstore.claim base).drop (List.sublist_cons_self _ _).subperm)
    fun visited depth reference => staysClaimed_resolveReference h options visited depth reference

end Lowering

end SchemaTypings
