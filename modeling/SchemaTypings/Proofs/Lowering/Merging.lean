import SchemaTypings.Proofs.Lowering.Agreement
import SchemaTypings.Proofs.Lowering.Calls
import SchemaTypings.Proofs.Lowering.Clear
import SchemaTypings.Proofs.Lowering.InlineCongruence
import SchemaTypings.Proofs.Lowering.MemoTables
import SchemaTypings.Proofs.Lowering.Success

/-!
# Merging memo tables

Where tables of runs over one document merge, the first name for a reference counts and the first
declaration of a name. Nothing is lost by that if all references that are met have fixed names: a name
that is declared is the alias of one reference, and two runs that lower its target with success find one
text and one list of dependencies, whatever they have recorded before and wherever in a cycle they stand
(`Document.Declares.unique`). So tables with the same name hold the same declaration
(`Context.memos_agree`).
-/

namespace SchemaTypings

open LowerM Lowering Relation Typing

variable {raw : Json} {document : Document} {options : Options} {α β : Type}

/-! ## Runs that succeed -/

/-- From canonical stores with the same dependencies, the successes of the steps agree, and so do the
dependencies after them. -/
def Alike (document : Document) (options : Options) {α : Type} (step step' : LowerM α) : Prop :=
  ∀ ⦃scope scope' : Scope⦄ ⦃store store' after after' : Store⦄ ⦃value value' : α⦄,
    store.Canonical document → store'.Canonical document → store.dependencies = store'.dependencies →
      step.runWith ⟨document, options, scope⟩ store = (.ok value, after) →
      step'.runWith ⟨document, options, scope'⟩ store' = (.ok value', after') →
        value = value' ∧ after.dependencies = after'.dependencies ∧
          after.Canonical document ∧ after'.Canonical document

namespace Alike

variable {step step' : LowerM α}

theorem of_runWith {value : α} {change : Store → Store}
    (hrun : ∀ scope store, step.runWith ⟨document, options, scope⟩ store = (.ok value, change store))
    (hdependencies : ∀ store, (change store).dependencies = store.dependencies)
    (htypes : ∀ store, (change store).types = store.types) : Alike document options step step := by
  intro scope scope' store store' after after' first second hcanonical hcanonical' hsame h h'
  cases (hrun scope store).symm.trans h
  cases (hrun scope' store').symm.trans h'
  refine ⟨rfl, ?_, ?_, ?_⟩
  · rw [hdependencies, hdependencies, hsame]
  · unfold Store.Canonical
    rw [htypes]
    exact hcanonical
  · unfold Store.Canonical
    rw [htypes]
    exact hcanonical'

theorem bind {next next' : α → LowerM β} (h : Alike document options step step')
    (hnext : ∀ value, Alike document options (next value) (next' value)) :
    Alike document options (step >>= next) (step' >>= next') := by
  intro scope scope' store store' after after' value value' hcanonical hcanonical' hsame hrun hrun'
  obtain ⟨first, between, hstep, hrest⟩ := runWith_bind_eq_ok.mp hrun
  obtain ⟨first', between', hstep', hrest'⟩ := runWith_bind_eq_ok.mp hrun'
  obtain ⟨rfl, hdependencies, hbetween, hbetween'⟩ := h hcanonical hcanonical' hsame hstep hstep'
  exact hnext first hbetween hbetween' hdependencies hrest hrest'

theorem descend (segment : String) (h : Alike document options step step') :
    Alike document options (LowerM.descend segment step) (LowerM.descend segment step') := by
  intro scope scope' store store' after after' value value' hcanonical hcanonical' hsame hrun hrun'
  rw [runWith_descend] at hrun hrun'
  split at hrun
  · cases hrun
  · split at hrun'
    · cases hrun'
    · exact h hcanonical hcanonical' hsame hrun hrun'

theorem congruence : InlineCongruence (Alike document options) where
  pure _ := of_runWith (fun _ _ => rfl) (fun _ => rfl) fun _ => rfl
  options := of_runWith (fun _ _ => rfl) (fun _ => rfl) fun _ => rfl
  refuse error := by
    intro _ _ _ _ _ _ _ _ _ _ _ hrun
    cases hrun
  warn message := by
    have hrun : ∀ scope store, (LowerM.warn message).runWith ⟨document, options, scope⟩ store =
        (.ok (), store.warned message) := fun _ _ => rfl
    exact of_runWith hrun (fun _ => rfl) fun _ => rfl
  bind := bind
  withSegment _ h := by
    intro _ _ _ _ _ _ _ _ hcanonical hcanonical' hsame hrun hrun'
    exact h hcanonical hcanonical' hsame hrun hrun'
  descend := descend

/-- What is collected for a declaration of its own agrees from any canonical stores: the dependencies of
the surroundings are of no account. -/
theorem collected {step step' : LowerM String} (h : Alike document options step step') {name : String}
    {scope scope' : Scope} {store store' after after' : Store} {value value' : String × List String}
    (hcanonical : store.Canonical document) (hcanonical' : store'.Canonical document)
    (hrun : (asDeclaration name (collectDependencies step)).runWith ⟨document, options, scope⟩ store =
      (.ok value, after))
    (hrun' : (asDeclaration name (collectDependencies step')).runWith ⟨document, options, scope'⟩
      store' = (.ok value', after')) : value = value' := by
  simp only [asDeclaration, runWith_atDeclarationRoot, runWith_withSegment, isolateDependencies,
    collectDependencies, runWith_map, runWith_scopedDependencies] at hrun hrun'
  rcases hstep : step.runWith _ { store with dependencies := [] } with ⟨_ | type, inner⟩ <;>
    rw [hstep] at hrun <;> cases hrun
  rcases hstep' : step'.runWith _ { store' with dependencies := [] } with ⟨_ | type', inner'⟩ <;>
    rw [hstep'] at hrun' <;> cases hrun'
  have hstart : Store.Canonical document { store with dependencies := [] } := hcanonical
  have hstart' : Store.Canonical document { store' with dependencies := [] } := hcanonical'
  obtain ⟨rfl, hdependencies, -⟩ := h hstart hstart' rfl hstep hstep'
  exact congrArg (type, ·) hdependencies

end Alike

/-! ## References -/

namespace Lowering

/-- The type expression of a schema, if no more than `active` references may be entered within each
other. -/
abbrev typeWithin (active : Nat) : Schema → LowerM String :=
  typeOf fun next => Resolution.name <$> resolveWithin active next

variable {scope : Scope} {store after : Store} {reference : String} {resolution : Resolution}

/-- A reference that resolves is one more dependency, and its target adds none. -/
theorem dependencies_resolveWithin {active : Nat}
    (hrun : (resolveWithin active reference).runWith ⟨document, options, scope⟩ store =
      (.ok resolution, after)) : after.dependencies = addName store.dependencies resolution.name := by
  obtain ⟨path, visited, depth⟩ := scope
  have hforward : (Lowering.forwardReference reference).runWith
      (.within document options path visited depth) store = (.ok resolution, after) →
        after.dependencies = addName store.dependencies resolution.name := by
    intro hrun
    rw [runWith_forwardReference] at hrun
    cases hrun
    rfl
  cases active with
  | zero => exact hforward hrun
  | succ active =>
    by_cases hvisited : reference ∈ visited
    · exact hforward ((runWith_resolveWithin_of_mem _ hvisited).symm.trans hrun)
    · replace hrun := (runWith_resolveWithin_of_not_mem _ hvisited).symm.trans hrun
      rw [resolveNew, runWith_bind_eq_ok] at hrun
      obtain ⟨name, between, hfresh, hrest⟩ := hrun
      cases hrest
      rw [runWith_withVisited_of_not_mem _ hvisited] at hfresh
      have hsame : between.dependencies = store.dependencies := by
        rw [← dependencies_resolveFresh _ _ _ _ _ store, hfresh]
      exact congrArg (addName · name) hsame

end Lowering

theorem Alike.resolveWithin (h : Document.ofJson raw = .ok document) {reference : String}
    (hfixed : document.Fixed reference) (active active' : Nat) :
    Alike document options (Resolution.name <$> resolveWithin active reference)
      (Resolution.name <$> resolveWithin active' reference) := by
  have hkeeps : ∀ {active : Nat} {scope : Scope} {store after : Store} {name : String},
      store.Canonical document → (Resolution.name <$> Lowering.resolveWithin active reference).runWith
        ⟨document, options, scope⟩ store = (.ok name, after) →
          name = document.fixedName reference ∧ after.dependencies = addName store.dependencies name ∧
            after.Canonical document := by
    intro active scope store after name hcanonical hrun
    rw [← bind_pure_comp, runWith_bind_eq_ok] at hrun
    obtain ⟨resolution, between, hresolve, hrest⟩ := hrun
    cases hrest
    have hchanges : Changes document options scope.visited scope.depth
        (Lowering.resolveWithin active reference) [.follow reference] :=
      Changes.resolveWithin active reference
    have hafter := hcanonical.changes h (hchanges.run scope.path store)
    rw [show Setting.within document options scope.path scope.visited scope.depth =
      ⟨document, options, scope⟩ from rfl, hresolve] at hafter
    exact ⟨name_eq_fixedName h hcanonical hfixed hresolve, dependencies_resolveWithin hresolve, hafter⟩
  intro scope scope' store store' after after' name name' hcanonical hcanonical' hsame hrun hrun'
  obtain ⟨hname, hdependencies, hafter⟩ := hkeeps hcanonical hrun
  obtain ⟨hname', hdependencies', hafter'⟩ := hkeeps hcanonical' hrun'
  obtain rfl := hname.trans hname'.symm
  exact ⟨rfl, by rw [hdependencies, hdependencies', hsame], hafter, hafter'⟩

/-! ## Declarations of aliases -/

/-- The declaration is that of the alias reserved for a reference, as some run from a canonical store
finds it; all references in its target have fixed names. -/
inductive Document.Declares (document : Document) (options : Options) : Declaration → Prop
  | alias {reference name type : String} {dependencies : List String} {target : Schema}
    {scope : Scope} {store after : Store} {active : Nat}
    (hname : document.alias? reference = some name)
    (htarget : document.resolve? reference = some target)
    (hfixed : ∀ next, target.Mentions next → document.Fixed next)
    (hcanonical : store.Canonical document)
    (hrun : (asDeclaration name (collectDependencies (typeWithin active target))).runWith
      ⟨document, options, scope⟩ store = (.ok (type, dependencies), after)) :
    Declares document options (aliasDeclaration options name type dependencies)

/-- One name is that of one declaration. -/
theorem Document.Declares.unique (h : Document.ofJson raw = .ok document)
    {declaration other : Declaration} (hfirst : document.Declares options declaration)
    (hsecond : document.Declares options other) (hname : declaration.name = other.name) :
    declaration = other := by
  obtain @⟨reference, name, type, dependencies, target, scope, store, after, active, hname₁, htarget₁,
    hfixed, hcanonical, hrun⟩ := hfirst
  obtain @⟨reference', name', type', dependencies', target', scope', store', after', active', hname₂,
    htarget₂, -, hcanonical', hrun'⟩ := hsecond
  obtain rfl : name = name' := hname
  obtain rfl := Document.eq_of_alias?_eq h hname₁ hname₂
  obtain rfl := Option.some.inj (htarget₁.symm.trans htarget₂)
  have halike : Alike document options (typeWithin active target) (typeWithin active' target) :=
    Alike.congruence.typeOf fun next hmention =>
      Alike.resolveWithin h (hfixed next hmention) active active'
  cases halike.collected hcanonical hcanonical' hrun hrun'
  rfl

/-! ## Stores -/

/-- What the store holds is fixed by the document: the names of its references, and the declarations of
their aliases. -/
structure Store.Determined (document : Document) (options : Options) (store : Store) : Prop where
  canonical : store.Canonical document
  recorded : ∀ reference, store.Records reference → document.Fixed reference
  declared : ∀ declaration ∈ store.declarations, document.Declares options declaration

namespace Store.Determined

variable {store after : Store} {reference : String}

theorem fresh (document : Document) (options : Options) :
    (Store.fresh document).Determined document options where
  canonical := canonical_fresh
  recorded _ h := nomatch h
  declared _ h := nomatch h

/-- Dependencies, names that are taken, and warnings are of no account. -/
theorem congr (h : store.Determined document options) (htypes : after.types = store.types)
    (hdeclarations : after.declarations = store.declarations) : after.Determined document options where
  canonical := by
    unfold Canonical
    rw [htypes]
    exact h.canonical
  recorded := by
    unfold Records
    rw [htypes]
    exact h.recorded
  declared := by
    rw [hdeclarations]
    exact h.declared

theorem record {name : String} (h : store.Determined document options)
    (hfixed : document.Fixed reference) (hname : name = document.fixedName reference) :
    (store.record reference name).Determined document options where
  canonical := h.canonical.record fun _ => hname
  recorded other hother := (records_record.mp hother).elim (h.recorded other) fun heq => heq ▸ hfixed
  declared := h.declared

theorem forget (h : store.Determined document options) :
    (store.forget reference).Determined document options where
  canonical other name hfixed hlookup := by
    rw [lookup_forget] at hlookup
    split at hlookup
    · cases hlookup
    · exact h.canonical other name hfixed hlookup
  recorded other hother := h.recorded other (records_forget.mp hother).1
  declared := h.declared

theorem declare {declaration : Declaration} (h : store.Determined document options)
    (hdeclares : document.Declares options declaration) :
    (store.declare declaration).Determined document options where
  canonical := h.canonical
  recorded := h.recorded
  declared other hother := by
    simp only [Store.declare, Memo.addDeclaration] at hother
    split at hother
    · exact h.declared other hother
    · rcases List.mem_append.mp hother with hother | hother
      · exact h.declared other hother
      · exact List.mem_singleton.mp hother ▸ hdeclares

/-- A name is reserved for a reference below a named schema, so none is claimed for it. -/
theorem enterBelow {reserved : String} (h : store.Determined document options)
    (hreserved : document.alias? reference = some reserved) :
    store.nameBelow document reference = (reserved, store) ∧
      (store.enterBelow document reference).Determined document options := by
  have hname : store.nameBelow document reference = (reserved, store) := by
    simp [nameBelow, hreserved]
  refine ⟨hname, ?_⟩
  rw [Store.enterBelow, hname]
  exact h.record (Or.inr (by simp [hreserved])) (by simp [Document.fixedName, hreserved])

end Store.Determined

/-! ## Steps -/

/-- All references to which the reference leads have fixed names. -/
def Document.FixedFrom (document : Document) (reference : String) : Prop :=
  ∀ last, document.Leads (fun _ => False) reference last → document.Fixed last

theorem Document.FixedFrom.next {reference next : String} {target : Schema}
    (h : document.FixedFrom reference) (htarget : document.resolve? reference = some target)
    (hmention : target.Mentions next) : document.FixedFrom next :=
  fun last hleads => h last (.step id htarget hmention hleads)

/-- Wherever the step is run from a determined store, the store is determined at every moment, if the
references that it asks to follow lead to fixed names. -/
def Determines (document : Document) (options : Options) {α : Type} (visited : List String)
    (depth : Nat) (step : LowerM α) (demands : List Demand) : Prop :=
  (∀ reference, .follow reference ∈ demands → document.FixedFrom reference) →
    ∀ path store, store.Determined document options →
      step.Through (fun _ store => store.Determined document options)
        (.within document options path visited depth) store fun _ _ => True

namespace Determines

variable {visited : List String} {depth : Nat} {step : LowerM α} {demands others : List Demand}
  {reference : String}

theorem bind {next : α → LowerM β} (h : Determines document options visited depth step demands)
    (hnext : ∀ value, Determines document options visited depth (next value) others) :
    Determines document options visited depth (step >>= next) (demands ++ others) := by
  intro hfixed path store hstore
  refine Through.bind ((h (fun reference h => hfixed reference (List.mem_append_left _ h)) path store
    hstore).mono fun result after hafter _ => ?_)
  cases result with
  | error error => exact trivial
  | ok value =>
    exact hnext value (fun reference h => hfixed reference (List.mem_append_right _ h)) path after
      hafter

theorem withSegment (segment : String)
    (h : Determines document options visited depth step demands) :
    Determines document options visited depth (LowerM.withSegment segment step) demands :=
  fun hfixed path store hstore => Through.inFrame hstore
    ((h hfixed (path ++ [segment]) store hstore).mono fun _ _ hafter _ => ⟨hafter, trivial⟩)

theorem descend (segment : String)
    (h : Determines document options visited (depth + 1) step demands) :
    Determines document options visited depth (LowerM.descend segment step)
      (options.levelDemands depth ++ demands) := by
  intro hfixed path store hstore
  show (ite _ _ _ : LowerM α).Through _ _ _ _
  split
  · exact Through.throw hstore trivial
  · exact Through.inFrame hstore ((h (fun reference h => hfixed reference (List.mem_append_right _ h))
      (path ++ [segment]) store hstore).mono fun _ _ hafter _ => ⟨hafter, trivial⟩)

theorem scopedDependencies (merge : List String → List String → List String)
    (h : Determines document options visited depth step demands) :
    Determines document options visited depth (LowerM.scopedDependencies merge step) demands := by
  intro hfixed path store hstore
  have hstart : Store.Determined document options { store with dependencies := [] } :=
    hstore.congr rfl rfl
  refine Through.scopedDependencies hstore
    ((h hfixed path _ hstart).mono fun _ after hafter _ => ?_)
  exact ⟨hafter.congr rfl rfl, trivial⟩

theorem inlineRules : InlineRules options (Determines document options) where
  congr h hsame hfixed := h fun reference hdemand => hfixed reference ((hsame _).mp hdemand)
  pure _ := fun _ _ _ hstore => Through.pure hstore trivial
  bind := bind
  readOptions h := h
  refuse _ := fun _ _ _ hstore => Through.throw hstore trivial
  warn _ := fun _ _ _ hstore => Through.modify hstore (hstore.congr rfl rfl) trivial
  withSegment := withSegment
  descend := descend

theorem asDeclaration (name : String) (h : Determines document options visited 0 step demands) :
    Determines document options visited depth (asDeclaration name step) demands := by
  have hisolated := (inlineRules.map (·.1) (h.scopedDependencies fun outer _ => outer)).withSegment name
  exact fun hfixed path store hstore => Through.inFrame hstore
    ((hisolated hfixed path store hstore).mono fun _ _ hafter _ => ⟨hafter, trivial⟩)

/-! ## References -/

theorem forwardReference : Determines document options visited depth (forwardReference reference)
    demands :=
  fun _ _ _ hstore => Through.readDocument (Through.readRecorded hstore
    (Through.bind (Through.modify hstore (hstore.congr rfl rfl)
      (Through.pure (hstore.congr rfl rfl) trivial))))

theorem resolveNamed (h : Document.ofJson raw = .ok document) {lower : LowerM String}
    (hnamed : document.isNamed reference)
    (hlower : Determines document options visited 0 lower demands) :
    Determines document options visited depth (resolveNamed lower reference) demands := by
  intro hfixed path store hstore
  have htarget : Determines document options visited depth
      (Lowering.asDeclaration (Name.ofReference reference) lower) demands := hlower.asDeclaration _
  refine Through.bind ((htarget hfixed path store hstore).mono fun result inner hinner _ => ?_)
  cases result with
  | error error => exact trivial
  | ok type =>
    have hrecorded := hinner.record (Or.inl hnamed) (Document.fixedName_of_isNamed h hnamed).symm
    exact Through.bind (Through.modify hinner hrecorded (Through.pure hrecorded trivial))

/-- The alias that is declared for the target of a reference is the one of that reference. -/
theorem resolveBelow {target : Schema} {active : Nat} (hnamed : ¬document.isNamed reference)
    (htarget : document.resolve? reference = some target) (hfrom : document.FixedFrom reference)
    (hlower : Determines document options visited 0 (typeWithin active target) demands) :
    Determines document options visited depth (resolveBelow (typeWithin active target) reference)
      demands := by
  intro hfixed path store hstore
  obtain ⟨reserved, hreserved⟩ :=
    Option.isSome_iff_exists.mp ((hfrom reference (.refl id)).resolve_left hnamed)
  obtain ⟨hname, hentered⟩ := hstore.enterBelow hreserved
  rw [Store.enterBelow, hname] at hentered
  have hcollected : Determines document options visited depth (Lowering.asDeclaration reserved
      (LowerM.collectDependencies (typeWithin active target))) demands :=
    (hlower.scopedDependencies _).asDeclaration reserved
  have hdeclareBelow : (declareBelow (typeWithin active target) reference reserved).Through
      (fun _ store => store.Determined document options)
      (.within document options path visited depth) store fun _ _ => True := by
    refine Through.bind (Through.modify hstore hentered (Through.bind (Through.attempt
      ((hcollected hfixed path _ hentered).runs.mono fun result inner hinner hrun => ?_))))
    cases result with
    | error error =>
      exact Through.bind (Through.modify hinner hinner.forget (Through.throw hinner.forget trivial))
    | ok described =>
      have hdeclared := hinner.declare (.alias hreserved htarget
        (fun next hmention => hfrom.next htarget hmention next (.refl id)) hentered.canonical hrun.1)
      exact Through.readOptions (Through.bind (Through.modify hinner hdeclared
        (Through.pure hdeclared trivial)))
  rw [resolveBelow_eq]
  refine Through.readDocument ?_
  dsimp only [Setting.within]
  rw [hreserved]
  exact hdeclareBelow

theorem resolveFresh (h : Document.ofJson raw = .ok document) {active : Nat}
    (hfrom : document.FixedFrom reference) (hlower : ∀ target, Determines document options visited 0
      (typeWithin active target) (target.demands options 0)) :
    Determines document options visited depth (resolveFresh (typeWithin active) reference)
      demands := by
  intro _ path store hstore
  refine Through.readRecorded hstore ?_
  cases store.types.lookup reference with
  | some name => exact Through.pure hstore trivial
  | none =>
    refine Through.readDocument ?_
    dsimp only [Setting.within]
    cases htarget : document.resolve? reference with
    | none => exact Through.throw hstore trivial
    | some target =>
      have hnext : ∀ next, .follow next ∈ target.demands options 0 → document.FixedFrom next :=
        fun next hnext => hfrom.next htarget (Schema.follow_mem_demands.mp hnext)
      show (ite _ _ _ : LowerM String).Through _ _ _ _
      split
      · exact resolveNamed h ‹_› (hlower target) hnext path store hstore
      · exact resolveBelow ‹_› htarget hfrom (hlower target) hnext path store hstore

theorem resolveWithin (h : Document.ofJson raw = .ok document) (active : Nat) (reference : String) :
    Determines document options visited depth (resolveWithin active reference)
      [.follow reference] := by
  induction active generalizing visited depth reference with
  | zero => exact forwardReference
  | succ active ih =>
    intro hfixed path store hstore
    refine Through.readScope ?_
    show (ite (visited.contains reference = true) _ _ : LowerM Resolution).Through _ _ _ _
    by_cases hvisited : reference ∈ visited
    · rw [if_pos (by simpa using hvisited)]
      exact forwardReference hfixed path store hstore
    · rw [if_neg (by simpa using hvisited)]
      have hfresh : Determines document options (visited ++ [reference]) depth
          (Lowering.resolveFresh (typeWithin active) reference) [.follow reference] :=
        resolveFresh h (hfixed reference (by simp)) fun target =>
          inlineRules.typeOf fun next _ _ => inlineRules.map _ (ih next)
      refine Through.bind (Through.withVisited_of_not_mem hvisited hstore
        ((hfresh hfixed path store hstore).mono fun result after hafter _ => ⟨hafter, ?_⟩))
      cases result with
      | error error => exact trivial
      | ok name =>
        exact Through.bind (Through.modify hafter (hafter.congr rfl rfl)
          (Through.pure (hafter.congr rfl rfl) trivial))

theorem resolveReference (h : Document.ofJson raw = .ok document) (reference : String) :
    Determines document options visited depth (resolveReference reference) [.follow reference] :=
  fun hfixed path store hstore =>
    Through.readDocument (resolveWithin h _ reference hfixed path store hstore)

theorem rules (h : Document.ofJson raw = .ok document) :
    Rules document options (Determines document options) where
  toInlineRules := inlineRules
  readDocument h := h
  collectDependencies h := h.scopedDependencies _
  claimName _ := fun _ _ _ hstore => ⟨hstore, hstore.congr rfl rfl, trivial⟩
  resolveReference {_ visited depth reference next demands} hnext := by
    intro hfixed path store hstore
    have hreference : Determines document options visited depth
        (Lowering.resolveReference reference) [.follow reference] := resolveReference h reference
    have hfollow : ∀ other, .follow other ∈ [Demand.follow reference] → document.FixedFrom other :=
      fun other hother => hfixed other (List.mem_cons.mpr (Or.inl (List.mem_singleton.mp hother)))
    refine Through.bind ((hreference hfollow path store hstore).runs.mono
      fun result between hbetween hresolved => ?_)
    cases result with
    | error error => exact trivial
    | ok resolution =>
      show (next resolution).Through _ _ _ _
      rw [circular_of_resolveReference hresolved.1]
      exact hnext resolution.name (fun other hother => hfixed other (List.mem_cons_of_mem _ hother))
        path between hbetween

end Determines

/-! ## Calls -/

/-- All references that are met from what the call lowers have fixed names. -/
def Call.Fixed (document : Document) (call : Call) : Prop :=
  ∀ reached reference, document.Reaches call.schema reached → reached.kind = .ref reference →
    document.Fixed reference

theorem Call.Fixed.from {call : Call} (h : call.Fixed document) {reference : String}
    (hmention : call.schema.Mentions reference) : document.FixedFrom reference := by
  intro last hleads
  obtain ⟨reached, hreached, hkind⟩ := Document.Reaches.of_leads hleads hmention
  exact h reached last hreached hkind

/-- If all strings in the document are references with fixed names, it is enough to look at the call. -/
theorem Call.fixed_of_strings {call : Call} (hlocal : document.Local)
    (hstrings : ∀ text ∈ document.raw.strings, document.Fixed text)
    (hcall : ∀ reference, call.schema.Mentions reference → document.Fixed reference) :
    call.Fixed document := by
  intro reached reference hreached hkind
  rcases hreached.cases_leads with hcontains | ⟨_, last, target, -, -, htarget, hcontains⟩
  · exact hcall reference ⟨reached, hcontains, hkind⟩
  · exact hstrings reference (hlocal last target reference htarget ⟨reached, hcontains, hkind⟩)

theorem Call.determines (h : Document.ofJson raw = .ok document) {call : Call}
    (hcall : call.IsOf document) (hfixed : call.Fixed document) (path visited : List String)
    (depth : Nat) {store : Store} (hstore : store.Determined document options) :
    call.step.Through (fun _ store => store.Determined document options)
      (.within document options path visited depth) store fun _ _ => True := by
  cases hown : call.ownPointer? with
  | none =>
    obtain ⟨demands, hdetermines, hmentions⟩ : ∃ demands,
        Determines document options visited depth call.step demands ∧
          ∀ reference, .follow reference ∈ demands → call.schema.Mentions reference :=
      (Determines.rules h).call call hown
    exact hdetermines (fun reference hdemand => hfixed.from (hmentions reference hdemand)) path store
      hstore
  | some pointer =>
    obtain ⟨entry, rfl⟩ := Call.eq_lowerNamed hown
    have hnamed : document.isNamed entry.pointer := Document.isNamed_iff.mpr ⟨entry, hcall, rfl⟩
    have hname : Name.pascal entry.name = document.fixedName entry.pointer := by
      rw [Document.fixedName_of_isNamed h hnamed, Document.ofReference_pointer h hcall]
    have hdeclare : ∀ visited', (Lowering.declare (Name.pascal entry.name) entry.schema).Through
        (fun _ store => store.Determined document options)
        (.within document options path visited' depth) store fun _ _ => True := by
      intro visited'
      have hdetermines : Determines document options visited' depth
          (Lowering.declare (Name.pascal entry.name) entry.schema) _ :=
        (Determines.rules h).declare (Name.pascal entry.name) entry.schema
      refine hdetermines (fun reference hdemand => hfixed.from ?_) path store hstore
      exact Schema.follow_mem_demands.mp ((Refines.declare entry.schema).follow reference hdemand)
    have hlowered : (withVisited entry.pointer
        (Lowering.declare (Name.pascal entry.name) entry.schema)).Through
          (fun _ store => store.Determined document options)
          (.within document options path visited depth) store fun _ _ => True := by
      by_cases hvisited : entry.pointer ∈ visited
      · exact Through.withVisited_of_mem hvisited hstore
          ((hdeclare visited).mono fun _ _ hafter _ => ⟨hafter, trivial⟩)
      · exact Through.withVisited_of_not_mem hvisited hstore
          ((hdeclare _).mono fun _ _ hafter _ => ⟨hafter, trivial⟩)
    refine Through.lowerNamed (hlowered.mono fun result inner hinner _ => ⟨?_, trivial⟩)
    cases result with
    | ok declarations => exact hinner.record (Or.inl hnamed) hname
    | error error => exact hinner.forget

/-! ## Tables -/

namespace Memo

/-- No declaration is lost if those of one name are one. -/
theorem mem_foldl_addDeclaration {P : Declaration → Prop}
    (hunique : ∀ declaration other, P declaration → P other → declaration.name = other.name →
      declaration = other) {declarations others : List Declaration}
    (hdeclarations : ∀ declaration ∈ declarations, P declaration) (hothers : ∀ other ∈ others, P other)
    {declaration : Declaration} : declaration ∈ others.foldl addDeclaration declarations ↔
      declaration ∈ declarations ∨ declaration ∈ others := by
  induction others generalizing declarations with
  | nil => simp
  | cons other rest ih =>
    rw [List.forall_mem_cons] at hothers
    have hadd : ∀ declaration, declaration ∈ addDeclaration declarations other ↔
        declaration ∈ declarations ∨ declaration = other := by
      intro declaration
      unfold addDeclaration
      split
      · rename_i hany
        obtain ⟨found, hfound, hname⟩ := List.any_eq_true.mp hany
        have hsame := hunique found other (hdeclarations found hfound) hothers.1 (by simpa using hname)
        refine ⟨Or.inl, fun h => h.elim id ?_⟩
        rintro rfl
        exact hsame ▸ hfound
      · rw [List.mem_append, List.mem_singleton]
    have hnext : ∀ declaration ∈ addDeclaration declarations other, P declaration := by
      intro declaration hmem
      rcases (hadd declaration).mp hmem with hmem | rfl
      · exact hdeclarations declaration hmem
      · exact hothers.1
    rw [List.foldl_cons, ih hnext hothers.2, hadd, List.mem_cons, or_assoc]

end Memo

namespace Context

/-- The contexts that calls reach over a document: from a fresh one, at the moments of calls, the last of
which is after the call, whether it succeeds or fails, and within frames of the caller. All references
that are met have fixed names. -/
inductive Gathers (document : Document) (options : Options) : Context → Prop
  | fresh : Gathers document options (.fresh document options)
  | frame {context : Context} (h : Gathers document options context) (frame : Frame) :
    Gathers document options (context.updateScope frame.enter)
  | moment {context moment : Context} (h : Gathers document options context) (call : Call)
    (hcall : call.IsOf document) (hfixed : call.Fixed document)
    (hmoment : moment ∈ context.moments call.step) : Gathers document options moment

theorem Gathers.determined (h : Document.ofJson raw = .ok document) {context : Context}
    (hgathers : Gathers document options context) :
    context.document = document ∧ context.options = options ∧
      context.store.Determined document options := by
  induction hgathers with
  | fresh => exact ⟨rfl, rfl, .fresh document options⟩
  | frame _ _ ih => exact ih
  | @moment context moment _ call hcall hfixed hmoment ih =>
    obtain ⟨rfl, rfl, hstore⟩ := ih
    obtain ⟨hdocument, hoptions⟩ := document_of_mem_moments hmoment
    exact ⟨hdocument, hoptions, (Through.run context (call.determines h hcall hfixed
      context.scope.path context.scope.visited context.scope.depth hstore)).1 moment hmoment⟩

/-- Whatever two contexts have found out over one document, declarations of one name are one, and so are
the names of one reference, if all references that are met have fixed names. So nothing is lost where
their tables merge. -/
theorem memos_agree (h : Document.ofJson raw = .ok document) {first second : Context}
    (hfirst : Gathers document options first) (hsecond : Gathers document options second) :
    (∀ declaration ∈ first.memo.declarations, ∀ other ∈ second.memo.declarations,
        declaration.name = other.name → declaration = other) ∧
      (∀ reference name other, first.memo.types.lookup reference = some name →
        second.memo.types.lookup reference = some other → name = other) ∧
      (∀ declaration, declaration ∈ (first.memo.merge second.memo).declarations ↔
        declaration ∈ first.memo.declarations ∨ declaration ∈ second.memo.declarations) ∧
      ∀ reference name, (first.memo.merge second.memo).types.lookup reference = some name ↔
        first.memo.types.lookup reference = some name ∨
          second.memo.types.lookup reference = some name := by
  obtain ⟨-, -, hstore⟩ := hfirst.determined h
  obtain ⟨-, -, hstore'⟩ := hsecond.determined h
  have hunique : ∀ declaration other, document.Declares options declaration →
      document.Declares options other → declaration.name = other.name → declaration = other :=
    fun _ _ => Document.Declares.unique h
  have hname : ∀ {store : Store} {reference name : String}, store.Determined document options →
      store.types.lookup reference = some name → name = document.fixedName reference := by
    intro store reference name hstore hlookup
    exact hstore.canonical reference name (hstore.recorded reference (by simp [Store.Records, hlookup]))
      hlookup
  have hnames : ∀ reference name other, first.store.types.lookup reference = some name →
      second.store.types.lookup reference = some other → name = other :=
    fun reference name other hlookup hlookup' =>
      (hname hstore hlookup).trans (hname hstore' hlookup').symm
  refine ⟨fun declaration hmem other hother => hunique declaration other
    (hstore.declared declaration hmem) (hstore'.declared other hother), hnames, fun declaration =>
      Memo.mem_foldl_addDeclaration hunique hstore.declared hstore'.declared, fun reference name => ?_⟩
  show ((second.store.types.foldl Memo.addType first.store.types).lookup reference = some name) ↔
    first.store.types.lookup reference = some name ∨ second.store.types.lookup reference = some name
  rw [Memo.lookup_foldl_addType]
  cases hlookup : first.store.types.lookup reference with
  | none => simp
  | some found =>
    refine ⟨fun hfound => Or.inl hfound, fun hfound => ?_⟩
    rcases hfound with hfound | hfound
    · exact hfound
    · exact congrArg some (hnames reference found name hlookup hfound)

/-- Two references that lead to each other, one of them below a named schema: its alias is the same
whichever of the two is described. -/
theorem memos_agree_of_cycle : ∃ document,
    Document.ofJson (.obj [("$defs", .obj [
      ("A", .obj [("properties", .obj [("x", .obj [("$ref", .str "#/$defs/B/properties/x")])])]),
      ("B", .obj [("properties", .obj [("x", .obj [("properties", .obj [
        ("a", .obj [("$ref", .str "#/$defs/A")])])])])])])]) = .ok document ∧
    ∃ declaration ∈ ((fresh document {}).run (describe ⟨.ref "#/$defs/A", {}⟩)).2.memo.declarations,
      ∃ other ∈ ((fresh document {}).run
          (describe ⟨.ref "#/$defs/B/properties/x", {}⟩)).2.memo.declarations,
        declaration.name = other.name ∧ declaration = other := by
  have hdeclared : ((Document.ofJson (.obj [("$defs", .obj [
      ("A", .obj [("properties", .obj [("x", .obj [("$ref", .str "#/$defs/B/properties/x")])])]),
      ("B", .obj [("properties", .obj [("x", .obj [("properties", .obj [
        ("a", .obj [("$ref", .str "#/$defs/A")])])])])])])])).toOption.any fun document =>
      (document.raw.strings.all fun text =>
        document.isNamed text || (document.alias? text).isSome) &&
      (document.raw.strings.contains "#/$defs/A" &&
        (document.raw.strings.contains "#/$defs/B/properties/x" &&
      ((fresh document {}).run
        (describe ⟨.ref "#/$defs/A", {}⟩)).2.memo.declarations.any fun declaration =>
          ((fresh document {}).run
            (describe ⟨.ref "#/$defs/B/properties/x", {}⟩)).2.memo.declarations.any fun other =>
              declaration.name == other.name))) = true := by decide +kernel
  obtain ⟨document, hdocument, hdeclared⟩ := Decode.exists_ok_of_any hdeclared
  simp only [Bool.and_eq_true, List.contains_iff_mem] at hdeclared
  obtain ⟨hall, hfirst, hsecond, hany⟩ := hdeclared
  have hstrings : ∀ text ∈ document.raw.strings, document.Fixed text := fun text hmem => by
    simpa [Document.Fixed] using List.all_eq_true.mp hall text hmem
  have hgathers : ∀ reference ∈ document.raw.strings,
      Gathers document {} ((fresh document {}).run (describe ⟨.ref reference, {}⟩)).2 := by
    intro reference hmem
    refine .moment .fresh (.describe ⟨.ref reference, {}⟩) trivial ?_ (run_mem_moments _ _)
    refine Call.fixed_of_strings (Document.local_of_ofJson hdocument) hstrings fun other hother => ?_
    rcases Schema.mentions_iff.mp hother with hkind | ⟨_, hchild, _⟩
    · cases hkind
      exact hstrings reference hmem
    · cases hchild
  obtain ⟨declaration, hmem, hany⟩ := List.any_eq_true.mp hany
  obtain ⟨other, hother, hname⟩ := List.any_eq_true.mp hany
  rw [beq_iff_eq] at hname
  have hagree := memos_agree hdocument (hgathers _ hfirst) (hgathers _ hsecond)
  exact ⟨document, hdocument, declaration, hmem, other, hother, hname,
    hagree.1 declaration hmem other hother hname⟩

end Context

end SchemaTypings
