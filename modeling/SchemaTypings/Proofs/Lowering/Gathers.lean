import SchemaTypings.Proofs.Lowering.Additions
import SchemaTypings.Proofs.Lowering.Attribution
import SchemaTypings.Proofs.Lowering.Clear
import SchemaTypings.Proofs.Lowering.Rules

/-!
# The names that steps depend on

A reference that is followed stays under one name: that under which it is being resolved, or the one that
was recorded for it (`Store.nameOf`). What a step adds to the dependencies if it succeeds are the names of
the references that it asks to follow, no more and no less (`Store.Gathers`); what lies behind a reference
is collected apart from them.
-/

namespace SchemaTypings

open LowerM Lowering

namespace Store

variable {document : Document} {visited parts : List String} {store between after : Store}
  {reference name : String} {demands others : List Demand}

/-- The name that a reference has in a store: the recorded one, the one reserved for it, or the one of its
last segment. -/
def nameOf (document : Document) (reference : String) (store : Store) : String :=
  (store.types.lookup reference <|> document.alias? reference).getD (Name.ofReference reference)

theorem nameOf_of_lookup (h : store.types.lookup reference = some name) :
    store.nameOf document reference = name := by
  rw [nameOf, h]
  rfl

theorem Extends.records (h : Extends document visited parts store after)
    (hrecords : store.Records reference) : after.Records reference := by
  obtain ⟨new, taken, hadds⟩ := h
  exact (mem_keys_iff hadds.types).mpr (Or.inl hrecords)

/-- A reference that is recorded or being resolved keeps its name. -/
theorem Extends.nameOf_eq (h : Extends document visited parts store after)
    (hmet : reference ∈ visited ∨ store.Records reference) :
    after.nameOf document reference = store.nameOf document reference := by
  obtain ⟨new, taken, hadds⟩ := h
  rw [nameOf, nameOf]
  rcases hmet with hvisited | hrecords
  · rw [hadds.lookup_of_mem_visited hvisited]
  · rw [hadds.lookup_of_records hrecords]

/-- The store is continued, the references that were asked to be followed have a name in it, and these names
are the dependencies that were added. -/
structure Gathers (document : Document) (visited : List String) (demands : List Demand)
    (store after : Store) : Prop where
  keeps : ∃ parts, Extends document visited parts store after
  met : ∀ reference, .follow reference ∈ demands → reference ∈ visited ∨ after.Records reference
  mem_dependencies : ∀ name, name ∈ after.dependencies ↔ name ∈ store.dependencies ∨
    ∃ reference, .follow reference ∈ demands ∧ after.nameOf document reference = name
  nodup : store.dependencies.Nodup → after.dependencies.Nodup

namespace Gathers

theorem of_eq (htypes : after.types = store.types) (hnames : after.usedNames = store.usedNames)
    (hdependencies : after.dependencies = store.dependencies) :
    Gathers document visited [] store after where
  keeps := ⟨[], .of_eq htypes hnames⟩
  met := by simp
  mem_dependencies := by simp [hdependencies]
  nodup h := hdependencies ▸ h

theorem congr (h : Gathers document visited demands store after)
    (hsame : ∀ demand, demand ∈ demands ↔ demand ∈ others) :
    Gathers document visited others store after where
  keeps := h.keeps
  met reference hdemand := h.met reference ((hsame _).mpr hdemand)
  mem_dependencies name := by simp only [h.mem_dependencies, hsame]
  nodup := h.nodup

theorem trans (h : Gathers document visited demands store between)
    (h' : Gathers document visited others between after) :
    Gathers document visited (demands ++ others) store after := by
  obtain ⟨parts, hkeeps⟩ := h.keeps
  obtain ⟨parts', hkeeps'⟩ := h'.keeps
  refine ⟨⟨_, hkeeps.trans hkeeps'⟩, fun reference hdemand => ?_, fun name => ?_, h'.nodup ∘ h.nodup⟩
  · rcases List.mem_append.mp hdemand with hdemand | hdemand
    · exact (h.met reference hdemand).imp_right hkeeps'.records
    · exact h'.met reference hdemand
  · -- the names of the first part are still those of its references
    have hnames : (∃ reference, .follow reference ∈ demands ∧ between.nameOf document reference = name) ↔
        ∃ reference, .follow reference ∈ demands ∧ after.nameOf document reference = name := by
      refine exists_congr fun reference => and_congr_right fun hdemand => ?_
      rw [hkeeps'.nameOf_eq (h.met reference hdemand)]
    rw [h'.mem_dependencies, h.mem_dependencies, hnames, or_assoc, ← exists_or]
    simp only [List.mem_append, or_and_right]

/-- A step that starts without dependencies, and puts those before in front of its own. -/
theorem collected (h : Gathers document visited demands { store with dependencies := [] } after) :
    Gathers document visited demands store
      { after with dependencies := after.dependencies.foldl addName store.dependencies } where
  keeps := by
    obtain ⟨parts, hkeeps⟩ := h.keeps
    exact ⟨parts, hkeeps.congr ⟨rfl, rfl⟩ ⟨rfl, rfl⟩⟩
  met := h.met
  mem_dependencies name := by
    have hinner := h.mem_dependencies name
    rw [or_iff_right List.not_mem_nil] at hinner
    exact mem_foldl_addName.trans (or_congr_right hinner)
  nodup := nodup_foldl_addName

end Gathers

end Store

/-! ## Resolving a reference -/

namespace Lowering

variable {document : Document} {options : Options} {path visited : List String} {depth : Nat}
  {store after : Store} {reference : String}

/-- A reference that is not being resolved is recorded under the name that it resolves to. -/
theorem lookup_of_resolveFresh {lower : Schema → LowerM String} {name : String}
    (hvisited : reference ∉ visited)
    (hlower : ∀ target, document.resolve? reference = some target →
      Extending document options (visited ++ [reference]) 0 (lower target)
        (target.demands options 0))
    (hrun : (withVisited reference (resolveFresh lower reference)).runWith
      (.within document options path visited depth) store = (.ok name, after)) :
    after.types.lookup reference = some name := by
  rw [runWith_withVisited_of_not_mem _ hvisited, runWith_resolveFresh] at hrun
  split at hrun
  · rename_i hlookup
    cases hrun
    exact hlookup
  · cases hrun
  · rename_i target hlookup htarget
    split at hrun
    · obtain ⟨type, inner, hstep, rfl, rfl⟩ := resolveNamed_eq_ok.mp hrun
      have hinner := (hlower target htarget).asDeclaration depth _ path hstep
      obtain ⟨new, taken, hadds⟩ := hinner
      have hnone : inner.types.lookup reference = none := by
        rw [hadds.lookup_of_mem_visited (by simp), hlookup]
      rw [Store.lookup_record, if_pos rfl, hnone, Option.getD_none]
    · obtain ⟨type, dependencies, inner, hstep, rfl, rfl⟩ := resolveBelow_eq_ok.mp hrun
      have hcollected := (hlower target htarget).scopedDependencies
        fun outer inner => inner.foldl addName outer
      obtain ⟨new, taken, hadds⟩ := hcollected.asDeclaration depth _ path hstep
      have henter : (store.enterBelow document reference).types.lookup reference =
          some (store.nameBelow document reference).1 := by
        rw [Store.enterBelow, Store.lookup_record, if_pos rfl, Store.types_nameBelow, hlookup,
          Option.getD_none]
      exact (hadds.lookup_of_mem_visited (by simp)).trans henter

/-- A reference that resolves is recorded or being resolved afterwards, and the name that it resolves to is
the one that it has then, and the only dependency added. -/
theorem gathers_resolveReference {resolution : Resolution}
    (hrun : (resolveReference reference).runWith (.within document options path visited depth) store =
      (.ok resolution, after)) :
    resolution.name = after.nameOf document reference ∧
      Store.Gathers document visited [.follow reference] store after := by
  have hextends : Store.Extends document visited [] store after :=
    Extending.resolveReference reference path hrun
  rw [runWith_resolveReference, Document.referenceBound] at hrun
  have hgathers : resolution.name = after.nameOf document reference →
      (reference ∈ visited ∨ after.Records reference) →
      after.dependencies = addName store.dependencies resolution.name →
        Store.Gathers document visited [.follow reference] store after := by
    intro hname hmet hdependencies
    refine ⟨⟨[], hextends⟩, by simpa using hmet, fun name => ?_, fun hnodup => ?_⟩
    · simp [hdependencies, mem_addName, hname, eq_comm]
    · rw [hdependencies]
      exact nodup_addName hnodup _
  by_cases hvisited : reference ∈ visited
  · rw [runWith_resolveWithin_of_mem _ hvisited, runWith_forwardReference] at hrun
    cases hrun
    exact ⟨rfl, hgathers rfl (Or.inl hvisited) rfl⟩
  · rw [runWith_resolveWithin_of_not_mem _ hvisited, resolveNew, runWith_bind_eq_ok] at hrun
    obtain ⟨name, between, hfresh, hrest⟩ := hrun
    cases hrest
    have hlookup := lookup_of_resolveFresh hvisited
      (fun target _ => Extending.inlineRules.typeOf fun next _ _ =>
        Extending.inlineRules.map _ (Extending.resolveWithin _ next)) hfresh
    have hdependencies : between.dependencies = store.dependencies := by
      rw [runWith_withVisited_of_not_mem _ hvisited] at hfresh
      rw [← dependencies_resolveFresh _ reference path (visited ++ [reference]) depth store, hfresh]
    have hname : name = (between.depend name).nameOf document reference :=
      (Store.nameOf_of_lookup hlookup).symm
    have hrecords : (between.depend name).Records reference := Option.isSome_iff_exists.mpr ⟨name, hlookup⟩
    exact ⟨hname, hgathers hname (Or.inr hrecords) (by rw [← hdependencies]; rfl)⟩

end Lowering

/-! ## Steps -/

/-- Every run of the step that succeeds adds the names of the references that it asks to follow to the
dependencies. -/
def Gathering (document : Document) (options : Options) {α : Type} (visited : List String) (depth : Nat)
    (step : LowerM α) (demands : List Demand) : Prop :=
  ∀ path {store after : Store} {value : α},
    step.runWith (.within document options path visited depth) store = (.ok value, after) →
      Store.Gathers document visited demands store after

namespace Gathering

variable {document : Document} {options : Options} {visited : List String} {depth : Nat}
  {α β : Type} {step : LowerM α} {demands others : List Demand} {reference : String}

theorem of_eq (h : ∀ setting store, (step.runWith setting store).2.types = store.types ∧
      (step.runWith setting store).2.usedNames = store.usedNames ∧
        (step.runWith setting store).2.dependencies = store.dependencies) :
    Gathering document options visited depth step [] := by
  intro path store after value hrun
  have hsame := h (.within document options path visited depth) store
  rw [hrun] at hsame
  exact .of_eq hsame.1 hsame.2.1 hsame.2.2

/-- A step, and the next one for what the first one can give. -/
theorem bindYields {next : α → LowerM β} (h : Gathering document options visited depth step demands)
    (hnext : ∀ value, (∃ path store after,
        step.runWith (.within document options path visited depth) store = (.ok value, after)) →
      Gathering document options visited depth (next value) others) :
    Gathering document options visited depth (step >>= next) (demands ++ others) := by
  intro path store after result hrun
  obtain ⟨value, between, hstep, hrest⟩ := runWith_bind_eq_ok.mp hrun
  exact (h path hstep).trans (hnext value ⟨_, _, _, hstep⟩ path hrest)

theorem descend (segment : String)
    (h : Gathering document options visited (depth + 1) step demands) :
    Gathering document options visited depth (LowerM.descend segment step)
      (options.levelDemands depth ++ demands) := by
  intro path store after value hrun
  obtain ⟨hdeep, hstep⟩ := runWith_descend_eq_ok.mp hrun
  rw [Options.levelDemands, if_neg hdeep, List.nil_append]
  exact h (path ++ [segment]) hstep

theorem collectDependencies (h : Gathering document options visited depth step demands) :
    Gathering document options visited depth (LowerM.collectDependencies step) demands := by
  intro path store after value hrun
  obtain ⟨inner, hstep, -, rfl⟩ := runWith_scopedDependencies_eq_ok.mp hrun
  exact (h path hstep).collected

theorem refuse (error : Scope → LoweringError) :
    Gathering document options visited depth
      (LowerM.scope >>= fun scope => (throw (error scope) : LowerM α)) [.refuse] := by
  intro path store after value hrun
  cases hrun

theorem inlineRules : InlineRules options (Gathering document options) where
  congr h hsame path := fun hrun => (h path hrun).congr hsame
  pure _ := of_eq fun _ _ => ⟨rfl, rfl, rfl⟩
  bind h hnext := h.bindYields fun value _ => hnext value
  readOptions h := h
  refuse := refuse
  warn _ := of_eq fun _ _ => ⟨rfl, rfl, rfl⟩
  withSegment segment h := fun path => h (path ++ [segment])
  descend := descend

theorem claimName (base : String) :
    Gathering document options visited depth (LowerM.claimName base) [] := by
  intro path store after name hrun
  rw [runWith_claimName] at hrun
  cases hrun
  exact ⟨⟨_, .claim base store⟩, by simp, by simp [Store.claim], id⟩

/-- Every operation adds the names of the references that it follows to the dependencies. -/
theorem rules : Rules document options (Gathering document options) where
  toInlineRules := inlineRules
  readDocument h := h
  collectDependencies := collectDependencies
  claimName := claimName
  resolveReference {_ visited depth reference _ _} hnext := by
    have hreference : Gathering document options visited depth (resolveReference reference)
        [.follow reference] := fun path store after resolution hrun =>
      (gathers_resolveReference hrun).2
    refine hreference.bindYields fun resolution ⟨path, store, after, hrun⟩ => ?_
    rw [circular_of_resolveReference hrun]
    exact hnext resolution.name

end Gathering

end SchemaTypings
