import Mathlib.Data.List.Nodup
import Mathlib.Data.List.Perm.Basic
import SchemaTypings.Proofs.Lookup
import SchemaTypings.Proofs.Lowering.InlineRules
import SchemaTypings.Proofs.Lowering.Reference
import SchemaTypings.Proofs.Name.Fresh

/-!
# What success adds to a store

A step that succeeds forgets nothing, since the entry of a reference is withdrawn only on the way to a
failure. So it continues the list of recorded type names, by references that were neither recorded nor
being resolved, and it continues the list of used names, by fresh ones. Each of those is accounted for: it
was claimed for a part, or for a new reference below a named schema for which no alias is reserved
(`Store.Adds`). Type expressions claim nothing for parts (`Extending.typeExpression`).
-/

namespace SchemaTypings

open LowerM Lowering

/-- The names that were claimed for references: those of references that are neither to named schemas nor
have an alias reserved for them. -/
def Document.claimedNames (document : Document) (types : List (String × String)) : List String :=
  (types.filter fun entry => !document.isNamed entry.1 && (document.alias? entry.1).isNone).map (·.2)

@[simp]
theorem Document.claimedNames_append (document : Document) (first second : List (String × String)) :
    document.claimedNames (first ++ second) =
      document.claimedNames first ++ document.claimedNames second := by
  simp [claimedNames]

namespace Store

variable {document : Document} {visited : List String} {store between after inner : Store}
  {parts first second : List String} {reference name : String}

/-- The store afterwards has some type names more, of references that were neither recorded nor being
resolved, and some used names more, which are fresh and are those of the parts and the ones claimed for the
new references. -/
structure Adds (document : Document) (visited : List String) (store after : Store) (parts : List String)
    (new : List (String × String)) (taken : List String) : Prop where
  types : after.types = store.types ++ new
  keys : (new.map (·.1)).Nodup
  unmet : ∀ entry ∈ new, entry.1 ∉ visited ∧ ¬store.Records entry.1
  usedNames : after.usedNames = store.usedNames ++ taken
  distinct : taken.Nodup
  fresh : store.usedNames.Disjoint taken
  accounts : taken.Perm (parts ++ document.claimedNames new)

/-- The store afterwards is the one before with some type names and used names more, and the parts have
names among these. -/
def Extends (document : Document) (visited parts : List String) (store after : Store) : Prop :=
  ∃ new taken, Adds document visited store after parts new taken

theorem mem_keys_iff {new : List (String × String)} (h : after.types = store.types ++ new) :
    after.Records reference ↔ store.Records reference ∨ reference ∈ new.map (·.1) := by
  have hnew : (new.lookup reference).isSome ↔ reference ∈ new.map (·.1) := isSome_lookup_iff
  unfold Records
  rw [h, List.lookup_append, Option.isSome_or, Bool.or_eq_true, hnew]

namespace Adds

variable {new new' : List (String × String)} {taken taken' : List String}

theorem lookup_of_records (h : Adds document visited store after parts new taken)
    (hrecords : store.Records reference) :
    after.types.lookup reference = store.types.lookup reference := by
  obtain ⟨found, hfound⟩ := Option.isSome_iff_exists.mp hrecords
  rw [h.types, List.lookup_append, hfound, Option.some_or]

theorem lookup_of_mem_visited (h : Adds document visited store after parts new taken)
    (hvisited : reference ∈ visited) :
    after.types.lookup reference = store.types.lookup reference := by
  have hnew : new.lookup reference = none := lookup_eq_none_of_not_mem fun hmem => by
    obtain ⟨entry, hentry, rfl⟩ := List.mem_map.mp hmem
    exact (h.unmet entry hentry).1 hvisited
  rw [h.types, List.lookup_append, hnew, Option.or_none]

/-- A new name is recorded, and was not before. -/
theorem lookup_of_mem_new (h : Adds document visited store after parts new taken)
    {entry : String × String} (hentry : entry ∈ new) :
    store.types.lookup entry.1 = none ∧ after.types.lookup entry.1 = some entry.2 := by
  have hstore := not_records_iff.mp (h.unmet entry hentry).2
  refine ⟨hstore, ?_⟩
  rw [h.types, List.lookup_append, hstore, Option.none_or]
  exact lookup_eq_some_of_mem h.keys hentry

theorem trans (h : Adds document visited store between first new taken)
    (h' : Adds document visited between after second new' taken') :
    Adds document visited store after (first ++ second) (new ++ new') (taken ++ taken') where
  types := by rw [h'.types, h.types, List.append_assoc]
  keys := by
    rw [List.map_append]
    refine h.keys.append h'.keys fun reference hmem hmem' => ?_
    obtain ⟨entry, hentry, rfl⟩ := List.mem_map.mp hmem'
    exact (h'.unmet entry hentry).2 ((mem_keys_iff h.types).mpr (Or.inr hmem))
  unmet entry hentry := by
    rcases List.mem_append.mp hentry with hentry | hentry
    · exact h.unmet entry hentry
    · refine ⟨(h'.unmet entry hentry).1, fun hrecords => (h'.unmet entry hentry).2 ?_⟩
      exact (mem_keys_iff h.types).mpr (Or.inl hrecords)
  usedNames := by rw [h'.usedNames, h.usedNames, List.append_assoc]
  distinct := h.distinct.append h'.distinct fun name hname hname' =>
    h'.fresh (h.usedNames ▸ List.mem_append_right _ hname) hname'
  fresh name hname hmem := by
    rcases List.mem_append.mp hmem with hmem | hmem
    · exact h.fresh hname hmem
    · exact h'.fresh (h.usedNames ▸ List.mem_append_left _ hname) hmem
  accounts := by
    refine (h.accounts.append h'.accounts).trans ?_
    rw [Document.claimedNames_append, List.perm_iff_count]
    intro name
    simp only [List.count_append]
    omega

end Adds

namespace Extends

/-- Dependencies, declarations and warnings do not matter. -/
theorem of_eq (htypes : after.types = store.types) (hnames : after.usedNames = store.usedNames) :
    Extends document visited [] store after :=
  ⟨[], [], by simp [htypes], by simp, by simp, by simp [hnames], by simp, by simp,
    List.Perm.refl []⟩

theorem trans (h : Extends document visited first store between)
    (h' : Extends document visited second between after) :
    Extends document visited (first ++ second) store after := by
  obtain ⟨new, taken, hadds⟩ := h
  obtain ⟨new', taken', hadds'⟩ := h'
  exact ⟨_, _, hadds.trans hadds'⟩

/-- Types and names are all that matters of the stores. -/
theorem congr {store' after' : Store} (h : Extends document visited parts store after)
    (hstore : store'.types = store.types ∧ store'.usedNames = store.usedNames)
    (hafter : after'.types = after.types ∧ after'.usedNames = after.usedNames) :
    Extends document visited parts store' after' := by
  have hstart : Extends document visited [] store' store := of_eq hstore.1.symm hstore.2.symm
  have hend : Extends document visited [] after after' := of_eq hafter.1 hafter.2
  simpa using (hstart.trans h).trans hend

theorem perm (h : Extends document visited first store after) (hperm : first.Perm second) :
    Extends document visited second store after := by
  obtain ⟨new, taken, hadds⟩ := h
  exact ⟨new, taken, { hadds with
    accounts := hadds.accounts.trans (hperm.append_right _) }⟩

/-- A name claimed for a part. -/
theorem claim (base : String) (store : Store) :
    Extends document visited [(store.claim base).1] store (store.claim base).2 := by
  have hfree : (store.claim base).1 ∉ store.usedNames :=
    Name.fresh_not_mem "" (Name.pascal base) store.usedNames
  exact ⟨[], [(store.claim base).1], (List.append_nil _).symm, List.nodup_nil, by simp, rfl,
    List.nodup_singleton _, by simpa using hfree, by simp [Document.claimedNames]⟩

/-! ## References -/

/-- Fewer references may be asked to be unmet. -/
theorem leave (h : Extends document (visited ++ [reference]) parts store after) :
    Extends document visited parts store after := by
  obtain ⟨new, taken, hadds⟩ := h
  exact ⟨new, taken, { hadds with
    unmet := fun entry hentry => (hadds.unmet entry hentry).imp_left fun hunmet hvisited =>
      hunmet (List.mem_append_left _ hvisited) }⟩

/-- A new reference is recorded; if its name is claimed for it, the name is taken with it. -/
theorem recordNew (hvisited : reference ∉ visited) (hnew : ¬store.Records reference)
    (htypes : between.types = store.types)
    (hnames : between.usedNames = store.usedNames ++ document.claimedNames [(reference, name)])
    (hfresh : ∀ taken ∈ document.claimedNames [(reference, name)], taken ∉ store.usedNames) :
    Extends document visited [] store (between.record reference name) := by
  have hlookup : between.types.lookup reference = none := by
    rw [htypes, not_records_iff.mp hnew]
  have hsingle : (document.claimedNames [(reference, name)]).Sublist [name] :=
    List.filter_sublist.map _
  refine ⟨[(reference, name)], document.claimedNames [(reference, name)], ?_, by simp, ?_, hnames,
    hsingle.nodup (List.nodup_singleton name), ?_, List.Perm.refl _⟩
  · show Memo.addType between.types (reference, name) = store.types ++ [(reference, name)]
    rw [Memo.addType, hlookup, htypes]
    rfl
  · simpa using ⟨hvisited, hnew⟩
  · exact fun taken hused hmem => hfresh taken hmem hused

/-- A reference to a named schema is recorded once its target was lowered. -/
theorem recordNamed (h : Extends document (visited ++ [reference]) [] store inner)
    (hvisited : reference ∉ visited) (hnew : ¬store.Records reference)
    (hnamed : document.isNamed reference) :
    Extends document visited [] store (inner.record reference name) := by
  have hinner : ¬inner.Records reference := by
    obtain ⟨new, taken, hadds⟩ := h
    rw [not_records_iff, hadds.lookup_of_mem_visited (by simp), not_records_iff.mp hnew]
  have hclaimed : document.claimedNames [(reference, name)] = [] := by
    simp [Document.claimedNames, hnamed]
  have hrecord : Extends document visited [] inner (inner.record reference name) :=
    recordNew hvisited hinner rfl (by simp [hclaimed]) (by simp [hclaimed])
  exact h.leave.trans hrecord

/-- A reference below a named schema is recorded before, under the name reserved for it or one that is
claimed. -/
theorem enterBelow (hvisited : reference ∉ visited) (hnew : ¬store.Records reference)
    (hnamed : ¬document.isNamed reference) :
    Extends document visited [] store (store.enterBelow document reference) := by
  unfold Store.enterBelow
  cases halias : document.alias? reference with
  | some reserved =>
    have hbelow : store.nameBelow document reference = (reserved, store) := by
      simp [nameBelow, halias]
    have hclaimed : document.claimedNames [(reference, reserved)] = [] := by
      simp [Document.claimedNames, halias]
    rw [hbelow]
    exact recordNew hvisited hnew rfl (by simp [hclaimed]) (by simp [hclaimed])
  | none =>
    have hbelow : store.nameBelow document reference = store.claim (Name.ofPointer reference) := by
      simp [nameBelow, halias]
    have hclaimed : ∀ name, document.claimedNames [(reference, name)] = [name] := by
      simp [Document.claimedNames, halias, hnamed]
    rw [hbelow]
    have hfree : (store.claim (Name.ofPointer reference)).1 ∉ store.usedNames :=
      Name.fresh_not_mem "" (Name.pascal (Name.ofPointer reference)) store.usedNames
    exact recordNew hvisited hnew rfl (by rw [hclaimed]; rfl) (by simpa [hclaimed] using hfree)

end Extends

end Store

/-! ## Steps -/

/-- Every run of the step that succeeds continues the store, and claims nothing for parts. -/
def Extending (document : Document) (options : Options) {α : Type} (visited : List String) (depth : Nat)
    (step : LowerM α) (_ : List Demand) : Prop :=
  ∀ path {store after : Store} {value : α},
    step.runWith (.within document options path visited depth) store = (.ok value, after) →
      Store.Extends document visited [] store after

namespace Extending

variable {document : Document} {options : Options} {visited : List String} {depth : Nat}
  {α β : Type} {step : LowerM α} {demands others : List Demand} {reference : String}

theorem of_eq (h : ∀ setting store, (step.runWith setting store).2.types = store.types ∧
      (step.runWith setting store).2.usedNames = store.usedNames) :
    Extending document options visited depth step demands := by
  intro path store after value hrun
  have hsame := h (.within document options path visited depth) store
  rw [hrun] at hsame
  exact .of_eq hsame.1 hsame.2

theorem bind {next : α → LowerM β} (h : Extending document options visited depth step demands)
    (hnext : ∀ value, Extending document options visited depth (next value) others) :
    Extending document options visited depth (step >>= next) (demands ++ others) := by
  intro path store after result hrun
  obtain ⟨value, between, hstep, hrest⟩ := runWith_bind_eq_ok.mp hrun
  exact (h path hstep).trans (hnext value path hrest)

theorem descend (segment : String)
    (h : Extending document options visited (depth + 1) step demands) :
    Extending document options visited depth (LowerM.descend segment step)
      (options.levelDemands depth ++ demands) := by
  intro path store after value hrun
  exact h (path ++ [segment]) (runWith_descend_eq_ok.mp hrun).2

theorem scopedDependencies (merge : List String → List String → List String)
    (h : Extending document options visited depth step demands) :
    Extending document options visited depth (LowerM.scopedDependencies merge step) demands := by
  intro path store after value hrun
  obtain ⟨inner, hstep, -, rfl⟩ := runWith_scopedDependencies_eq_ok.mp hrun
  exact (h path hstep).congr ⟨rfl, rfl⟩ ⟨rfl, rfl⟩

theorem inlineRules : InlineRules options (Extending document options) where
  congr h _ := h
  pure _ := of_eq fun _ _ => ⟨rfl, rfl⟩
  bind := bind
  readOptions h := h
  refuse _ := of_eq fun _ _ => ⟨rfl, rfl⟩
  warn _ := of_eq fun _ _ => ⟨rfl, rfl⟩
  withSegment segment h := fun path => h (path ++ [segment])
  descend := descend

theorem asDeclaration (depth : Nat) (name : String) (h : Extending document options visited 0 step demands) :
    Extending document options visited depth (Lowering.asDeclaration name step) demands := by
  have hisolated := inlineRules.map (·.1) (h.scopedDependencies fun outer _ => outer)
  exact fun path => hisolated (path ++ [name])

/-! ## References -/

/-- The target of a new reference is lowered while the reference is being resolved. -/
theorem resolveFresh {lower : Schema → LowerM String} (hvisited : reference ∉ visited)
    (hlower : ∀ target, document.resolve? reference = some target →
      Extending document options (visited ++ [reference]) 0 (lower target)
        (target.demands options 0)) :
    Extending document options visited depth (withVisited reference (resolveFresh lower reference))
      [.follow reference] := by
  intro path store after name hrun
  rw [runWith_withVisited_of_not_mem _ hvisited, runWith_resolveFresh] at hrun
  split at hrun
  · cases hrun
    exact .of_eq rfl rfl
  · cases hrun
  · rename_i target hlookup htarget
    have hnew : ¬store.Records reference := Store.not_records_iff.mpr hlookup
    split at hrun
    · rename_i hnamed
      obtain ⟨type, inner, hstep, -, rfl⟩ := resolveNamed_eq_ok.mp hrun
      have hinner := (hlower target htarget).asDeclaration depth _ path hstep
      exact hinner.recordNamed hvisited hnew hnamed
    · rename_i hnamed
      obtain ⟨type, dependencies, inner, hstep, -, rfl⟩ := resolveBelow_eq_ok.mp hrun
      have hcollected := (hlower target htarget).scopedDependencies
        fun outer inner => inner.foldl addName outer
      have hinner := hcollected.asDeclaration depth _ path hstep
      have henter : Store.Extends document visited [] store (store.enterBelow document reference) :=
        .enterBelow hvisited hnew hnamed
      exact (henter.trans hinner.leave).congr ⟨rfl, rfl⟩ ⟨rfl, rfl⟩

theorem forwardReference (reference : String) :
    Extending document options visited depth (forwardReference reference) [.follow reference] := by
  intro path store after value hrun
  rw [runWith_forwardReference] at hrun
  cases hrun
  exact .of_eq rfl rfl

theorem resolveWithin (active : Nat) (reference : String) :
    Extending document options visited depth (resolveWithin active reference) [.follow reference] := by
  induction active generalizing visited depth reference with
  | zero => exact forwardReference reference
  | succ active ih =>
    by_cases hvisited : reference ∈ visited
    · intro path store after value hrun
      rw [runWith_resolveWithin_of_mem _ hvisited] at hrun
      exact forwardReference reference path hrun
    · have hfresh : Extending document options visited depth (withVisited reference
          (Lowering.resolveFresh (typeOf fun target => Resolution.name <$>
            Lowering.resolveWithin active target) reference)) [.follow reference] :=
        resolveFresh hvisited fun target _ => inlineRules.typeOf fun next _ _ =>
          inlineRules.map _ (ih next)
      have hnew : Extending document options visited depth (resolveNew active reference)
          [.follow reference] :=
        inlineRules.bindNone hfresh fun name => of_eq fun _ _ => ⟨rfl, rfl⟩
      intro path store after value hrun
      rw [runWith_resolveWithin_of_not_mem active hvisited] at hrun
      exact hnew path hrun

theorem resolveReference (reference : String) :
    Extending document options visited depth (resolveReference reference) [.follow reference] :=
  fun path _ _ _ hrun =>
    resolveWithin document.referenceBound reference path (runWith_resolveReference.symm.trans hrun)

theorem typeExpression (schema : Schema) :
    Extending document options visited depth (typeExpression schema) (schema.demands options depth) :=
  inlineRules.typeOf fun reference _ _ => inlineRules.map _ (resolveReference reference)

end Extending

end SchemaTypings
