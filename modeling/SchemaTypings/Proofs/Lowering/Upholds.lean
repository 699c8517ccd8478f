import SchemaTypings.Proofs.Lowering.Moments
import SchemaTypings.Proofs.Lowering.Reference
import SchemaTypings.Proofs.Lowering.Rules

/-!
# What is upheld at every moment

A discipline is an invariant of the store and of the references being resolved, together with what a step
keeps of the store that it found. The invariant is asked at every moment, together with the bound on
levels of composition; what is kept is asked of the store at the end. If the changes of the store
respect a discipline, and what comes of entering a reference does, then it is upheld by every operation
(`Upholds.rules`).

What a step keeps may depend on the references being resolved, because those are in the care of what
surrounds the step: the entry of a reference whose target is being lowered is withdrawn or declared by
whoever recorded it, and by nobody else.
-/

namespace SchemaTypings

open LowerM Lowering

theorem prefix_foldl_addName (outer inner : List String) : outer <+: inner.foldl addName outer := by
  induction inner generalizing outer with
  | nil => exact List.prefix_rfl
  | cons name rest ih =>
    refine List.IsPrefix.trans ?_ (ih (addName outer name))
    unfold addName
    split
    · exact List.prefix_rfl
    · exact List.prefix_append outer [name]

/-- The store after a warning. -/
def Store.warned (message : String) (store : Store) : Store :=
  { store with warnings := store.warnings ++ [message] }

/-- What is asked at every moment: compositions are nested no deeper than the options allow, and the
invariant holds. -/
def Scope.Safe (options : Options) (inv : List String → Store → Prop) (scope : Scope)
    (store : Store) : Prop :=
  scope.depth ≤ options.maxDepth ∧ inv scope.visited store

/-- Wherever the step is run from a safe moment, all of its moments are safe, and it keeps what it is to
keep of the store. -/
def Upholds (document : Document) (options : Options) (inv : List String → Store → Prop)
    (keeps : List String → Store → Store → Prop) {α : Type} (visited : List String) (depth : Nat)
    (step : LowerM α) (_ : List Demand) : Prop :=
  ∀ path store, Scope.Safe options inv ⟨path, visited, depth⟩ store →
    step.Through (Scope.Safe options inv) (.within document options path visited depth) store
      fun _ after => keeps visited store after

/-- What holds when a reference has been entered and is about to be left: the invariant without it, and
what is kept without it. -/
def Leaves (inv : List String → Store → Prop) (keeps : List String → Store → Store → Prop)
    (visited : List String) (store after : Store) : Prop :=
  inv visited after ∧ keeps visited store after

/-- The changes of the store respect the invariant, and keep what is to be kept. -/
structure Discipline (document : Document) (inv : List String → Store → Prop)
    (keeps : List String → Store → Store → Prop) : Prop where
  refl (visited : List String) (store : Store) : keeps visited store store
  trans {visited : List String} {store between after : Store} : keeps visited store between →
    keeps visited between after → keeps visited store after
  dependencies {visited : List String} {store : Store} (dependencies : List String) :
    inv visited store → inv visited { store with dependencies }
  depend (visited : List String) (store : Store) (name : String) :
    keeps visited store (store.depend name)
  /-- A step that starts without dependencies keeps as much as one that starts with them, if those are
  put in front again. -/
  enclosed {visited : List String} {store after : Store}
    {merge : List String → List String → List String} :
    (∀ outer inner, outer <+: merge outer inner) →
      keeps visited { store with dependencies := [] } after →
        keeps visited store { after with
          dependencies := merge store.dependencies after.dependencies }
  warned {visited : List String} {store : Store} (message : String) : inv visited store →
    inv visited (store.warned message) ∧ keeps visited store (store.warned message)
  claim {visited : List String} {store : Store} (base : String) : inv visited store →
    inv visited (store.claim base).2 ∧ keeps visited store (store.claim base).2
  visit {visited : List String} {store : Store} {reference : String} : reference ∉ visited →
    inv visited store → inv (visited ++ [reference]) store
  /-- A reference to a named schema is recorded when its target has lowered. -/
  named {visited : List String} {store inner : Store} {reference : String} :
    document.isNamed reference → reference ∉ visited → inv (visited ++ [reference]) inner →
      keeps (visited ++ [reference]) store inner →
        Leaves inv keeps visited store inner ∧
          Leaves inv keeps visited store (inner.record reference (Name.ofReference reference))
  /-- A new reference below a named schema is recorded while its target is lowered. -/
  enterBelow {visited : List String} {store : Store} {reference : String} :
    ¬document.isNamed reference → reference ∉ visited → ¬store.Records reference →
      inv visited store → inv (visited ++ [reference]) (store.enterBelow document reference)
  /-- It is forgotten if the target does not lower, and declared if it does. -/
  leaveBelow {visited : List String} {store inner : Store} {reference : String} :
    ¬document.isNamed reference → reference ∉ visited → ¬store.Records reference →
      inv visited store → inv (visited ++ [reference]) inner →
        keeps (visited ++ [reference]) (store.enterBelow document reference) inner →
          Leaves inv keeps visited store (inner.forget reference) ∧
            ∀ declaration, declaration.name = (store.nameBelow document reference).1 →
              Leaves inv keeps visited store (inner.declare declaration)

namespace Lowering

/-- The rest of a reference below a named schema, once the name for it is chosen. -/
def declareBelow (target : LowerM String) (reference name : String) : LowerM String := do
  modify (Store.record reference name)
  let result ← attempt (asDeclaration name (collectDependencies target))
  match result with
  | .error error =>
    modify (Store.forget reference)
    throw error
  | .ok (type, dependencies) =>
    modify (Store.declare (aliasDeclaration (← options) name type dependencies))
    return name

theorem resolveBelow_eq (target : LowerM String) (reference : String) :
    resolveBelow target reference = (document >>= fun document => match document.alias? reference with
      | some reserved => declareBelow target reference reserved
      | none => claimName (Name.ofPointer reference) >>= declareBelow target reference) := rfl

end Lowering

namespace Upholds

variable {document : Document} {options : Options} {inv : List String → Store → Prop}
  {keeps : List String → Store → Store → Prop} {visited : List String} {depth : Nat} {α β : Type}
  {step : LowerM α} {demands others : List Demand}

theorem withSegment (segment : String)
    (h : Upholds document options inv keeps visited depth step demands) :
    Upholds document options inv keeps visited depth (LowerM.withSegment segment step) demands := by
  intro path store hsafe
  refine Through.inFrame hsafe ((h (path ++ [segment]) store hsafe).mono ?_)
  intro _ after hafter hkeeps
  exact ⟨hafter, hkeeps⟩

theorem descend (segment : String)
    (hrefl : ∀ visited store, keeps visited store store)
    (h : Upholds document options inv keeps visited (depth + 1) step demands) :
    Upholds document options inv keeps visited depth (LowerM.descend segment step) others := by
  intro path store hsafe
  show (ite _ _ _ : LowerM α).Through _ _ _ _
  split
  · exact Through.throw hsafe (hrefl visited store)
  · rename_i hdeep
    have hbelow : Scope.Safe options inv ⟨path ++ [segment], visited, depth + 1⟩ store :=
      ⟨Nat.not_lt.mp hdeep, hsafe.2⟩
    refine Through.inFrame hsafe ((h (path ++ [segment]) store hbelow).mono ?_)
    intro _ after hafter hkeeps
    exact ⟨⟨hsafe.1, hafter.2⟩, hkeeps⟩

variable (hdiscipline : Discipline document inv keeps)

include hdiscipline

theorem bind {next : α → LowerM β}
    (h : Upholds document options inv keeps visited depth step demands)
    (hnext : ∀ value, Upholds document options inv keeps visited depth (next value) others) :
    Upholds document options inv keeps visited depth (step >>= next) (demands ++ others) := by
  intro path store hsafe
  refine Through.bind ((h path store hsafe).mono fun result between hbetween hkeeps => ?_)
  cases result with
  | error error => exact hkeeps
  | ok value =>
    refine (hnext value path between hbetween).mono fun _ after _ hrest => ?_
    exact hdiscipline.trans hkeeps hrest

theorem scopedDependencies {merge : List String → List String → List String}
    (hmerge : ∀ outer inner, outer <+: merge outer inner)
    (h : Upholds document options inv keeps visited depth step demands) :
    Upholds document options inv keeps visited depth (LowerM.scopedDependencies merge step)
      demands := by
  intro path store hsafe
  have hstart : Scope.Safe options inv ⟨path, visited, depth⟩ { store with dependencies := [] } :=
    ⟨hsafe.1, hdiscipline.dependencies [] hsafe.2⟩
  refine Through.scopedDependencies hsafe ((h path _ hstart).mono fun result after hafter hkeeps => ?_)
  exact ⟨⟨hafter.1, hdiscipline.dependencies _ hafter.2⟩, hdiscipline.enclosed hmerge hkeeps⟩

theorem collectDependencies (h : Upholds document options inv keeps visited depth step demands) :
    Upholds document options inv keeps visited depth (LowerM.collectDependencies step) demands :=
  h.scopedDependencies hdiscipline prefix_foldl_addName

theorem isolateDependencies (h : Upholds document options inv keeps visited depth step demands) :
    Upholds document options inv keeps visited depth (LowerM.isolateDependencies step) demands := by
  have hscoped := h.scopedDependencies hdiscipline fun outer _ => List.prefix_refl outer
  intro path store hsafe
  exact Through.map (hscoped path store hsafe)

theorem inlineRules : InlineRules options (Upholds document options inv keeps) where
  congr h _ := h
  pure _ := fun _ store hsafe => Through.pure hsafe (hdiscipline.refl _ store)
  bind h hnext := h.bind hdiscipline hnext
  readOptions h := h
  refuse _ := fun _ store hsafe => Through.throw hsafe (hdiscipline.refl _ store)
  warn message := fun _ _ hsafe =>
    have hwarned := hdiscipline.warned message hsafe.2
    Through.modify hsafe ⟨hsafe.1, hwarned.1⟩ hwarned.2
  withSegment segment h := h.withSegment segment
  descend segment h := h.descend segment hdiscipline.refl

theorem asDeclaration (name : String)
    (h : Upholds document options inv keeps visited 0 step demands) :
    Upholds document options inv keeps visited depth (asDeclaration name step) demands := by
  intro path store hsafe
  have hisolated := (h.isolateDependencies hdiscipline).withSegment name
  have hroot : Scope.Safe options inv ⟨path, visited, 0⟩ store := ⟨Nat.zero_le _, hsafe.2⟩
  refine Through.inFrame hsafe ((hisolated path store hroot).mono ?_)
  intro _ after hafter hkeeps
  exact ⟨⟨hsafe.1, hafter.2⟩, hkeeps⟩

/-! ## References -/

section

variable {reference : String} {path : List String} {store : Store} {target : LowerM String}
  (hnew : reference ∉ visited)

include hnew

theorem resolveNamed (hnamed : document.isNamed reference)
    (h : Upholds document options inv keeps (visited ++ [reference]) 0 target demands)
    (hsafe : Scope.Safe options inv ⟨path, visited, depth⟩ store) :
    (resolveNamed target reference).Through (Scope.Safe options inv)
      (.within document options path (visited ++ [reference]) depth) store
      fun _ after => Leaves inv keeps visited store after := by
  have htarget : Upholds document options inv keeps (visited ++ [reference]) depth
      (Lowering.asDeclaration (Name.ofReference reference) target) demands :=
    h.asDeclaration hdiscipline _
  have hvisiting : Scope.Safe options inv ⟨path, visited ++ [reference], depth⟩ store :=
    ⟨hsafe.1, hdiscipline.visit hnew hsafe.2⟩
  refine Through.bind ((htarget path store hvisiting).mono fun result inner hinner hkeeps => ?_)
  have hleaves := hdiscipline.named hnamed hnew hinner.2 hkeeps
  cases result with
  | error error => exact hleaves.1
  | ok type =>
    have hrecorded : Scope.Safe options inv ⟨path, visited ++ [reference], depth⟩
        (inner.record reference (Name.ofReference reference)) :=
      ⟨hsafe.1, hdiscipline.visit hnew hleaves.2.1⟩
    exact Through.bind (Through.modify hinner hrecorded (Through.pure hrecorded hleaves.2))

theorem declareBelow (hnamed : ¬document.isNamed reference) (hrecords : ¬store.Records reference)
    (h : Upholds document options inv keeps (visited ++ [reference]) 0 target demands)
    (hsafe : Scope.Safe options inv ⟨path, visited, depth⟩ store)
    (hchosen : Scope.Safe options inv ⟨path, visited ++ [reference], depth⟩
      (store.nameBelow document reference).2) :
    (declareBelow target reference (store.nameBelow document reference).1).Through
      (Scope.Safe options inv) (.within document options path (visited ++ [reference]) depth)
      (store.nameBelow document reference).2
      fun _ after => Leaves inv keeps visited store after := by
  have hentered : Scope.Safe options inv ⟨path, visited ++ [reference], depth⟩
      (store.enterBelow document reference) :=
    ⟨hsafe.1, hdiscipline.enterBelow hnamed hnew hrecords hsafe.2⟩
  have htarget : Upholds document options inv keeps (visited ++ [reference]) depth
      (Lowering.asDeclaration (store.nameBelow document reference).1
        (LowerM.collectDependencies target)) demands :=
    (h.collectDependencies hdiscipline).asDeclaration hdiscipline _
  refine Through.bind (Through.modify hchosen hentered ?_)
  refine Through.bind (Through.attempt ((htarget path _ hentered).mono ?_))
  intro result inner hinner hkeeps
  have hleaves := hdiscipline.leaveBelow hnamed hnew hrecords hsafe.2 hinner.2 hkeeps
  have hvisit : ∀ after, Leaves inv keeps visited store after →
      Scope.Safe options inv ⟨path, visited ++ [reference], depth⟩ after := fun after h =>
    ⟨hsafe.1, hdiscipline.visit hnew h.1⟩
  cases result with
  | error error =>
    exact Through.bind (Through.modify hinner (hvisit _ hleaves.1)
      (Through.throw (hvisit _ hleaves.1) hleaves.1))
  | ok described =>
    have hdeclared := hleaves.2 (aliasDeclaration options (store.nameBelow document reference).1
      described.1 described.2) rfl
    exact Through.readOptions (Through.bind (Through.modify hinner (hvisit _ hdeclared)
      (Through.pure (hvisit _ hdeclared) hdeclared)))

theorem resolveBelow (hnamed : ¬document.isNamed reference) (hrecords : ¬store.Records reference)
    (h : Upholds document options inv keeps (visited ++ [reference]) 0 target demands)
    (hsafe : Scope.Safe options inv ⟨path, visited, depth⟩ store) :
    (resolveBelow target reference).Through (Scope.Safe options inv)
      (.within document options path (visited ++ [reference]) depth) store
      fun _ after => Leaves inv keeps visited store after := by
  have hvisiting : Scope.Safe options inv ⟨path, visited ++ [reference], depth⟩ store :=
    ⟨hsafe.1, hdiscipline.visit hnew hsafe.2⟩
  have hdeclare := declareBelow hdiscipline hnew hnamed hrecords h hsafe
  rw [resolveBelow_eq]
  unfold Store.nameBelow at hdeclare
  refine Through.readDocument ?_
  show (match document.alias? reference with | some reserved => _ | none => _ : LowerM String).Through
    _ _ _ _
  cases halias : document.alias? reference with
  | some reserved =>
    rw [halias] at hdeclare
    exact hdeclare hvisiting
  | none =>
    rw [halias] at hdeclare
    have hclaim := hdiscipline.claim (Name.ofPointer reference) hvisiting.2
    exact Through.claimName hvisiting (hdeclare ⟨hsafe.1, hclaim.1⟩)

theorem resolveFresh {lower : Schema → LowerM String}
    (hlower : ∀ target, Upholds document options inv keeps (visited ++ [reference]) 0 (lower target)
      (target.demands options 0)) (hsafe : Scope.Safe options inv ⟨path, visited, depth⟩ store) :
    (resolveFresh lower reference).Through (Scope.Safe options inv)
      (.within document options path (visited ++ [reference]) depth) store
      fun _ after => Leaves inv keeps visited store after := by
  have hvisiting : Scope.Safe options inv ⟨path, visited ++ [reference], depth⟩ store :=
    ⟨hsafe.1, hdiscipline.visit hnew hsafe.2⟩
  have hsame : Leaves inv keeps visited store store := ⟨hsafe.2, hdiscipline.refl visited store⟩
  refine Through.readRecorded hvisiting ?_
  cases hlookup : store.types.lookup reference with
  | some name => exact Through.pure hvisiting hsame
  | none =>
    have hrecords : ¬store.Records reference := Store.not_records_iff.mpr hlookup
    refine Through.readDocument ?_
    dsimp only [Setting.within]
    cases document.resolve? reference with
    | none => exact Through.throw hvisiting hsame
    | some target =>
      show (ite _ _ _ : LowerM String).Through _ _ _ _
      split
      · exact resolveNamed hdiscipline hnew ‹_› (hlower target) hsafe
      · exact resolveBelow hdiscipline hnew ‹_› hrecords (hlower target) hsafe

end

theorem forwardReference (reference : String) :
    Upholds document options inv keeps visited depth (forwardReference reference)
      [.follow reference] := by
  intro path store hsafe
  refine Through.readDocument (Through.readRecorded hsafe ?_)
  refine Through.bind (Through.modify hsafe ?_ (Through.pure ?_ (hdiscipline.depend visited store _)))
  all_goals exact ⟨hsafe.1, hdiscipline.dependencies _ hsafe.2⟩

theorem resolveWithin (active : Nat) (reference : String) :
    Upholds document options inv keeps visited depth (resolveWithin active reference)
      [.follow reference] := by
  induction active generalizing visited depth reference with
  | zero => exact forwardReference hdiscipline reference
  | succ active ih =>
    intro path store hsafe
    refine Through.readScope ?_
    show (ite (visited.contains reference = true) _ _ : LowerM Resolution).Through _ _ _ _
    by_cases hvisited : reference ∈ visited
    · rw [if_pos (by simpa using hvisited)]
      exact forwardReference hdiscipline reference path store hsafe
    · rw [if_neg (by simpa using hvisited)]
      have hlower : ∀ target, Upholds document options inv keeps (visited ++ [reference]) 0
          (typeOf (fun next => Resolution.name <$> Lowering.resolveWithin active next) target)
          (target.demands options 0) := fun target =>
        (inlineRules hdiscipline).typeOf fun next _ _ => (inlineRules hdiscipline).map _ (ih next)
      have hfresh := resolveFresh hdiscipline hvisited hlower hsafe
      refine Through.bind (Through.withVisited_of_not_mem hvisited hsafe ?_)
      refine hfresh.mono fun result after hafter hleaves => ?_
      have hleft : Scope.Safe options inv ⟨path, visited, depth⟩ after := ⟨hsafe.1, hleaves.1⟩
      refine ⟨hleft, ?_⟩
      cases result with
      | error error => exact hleaves.2
      | ok name =>
        have hdepend : Scope.Safe options inv ⟨path, visited, depth⟩ (after.depend name) :=
          ⟨hsafe.1, hdiscipline.dependencies _ hleaves.1⟩
        exact Through.bind (Through.modify hleft hdepend (Through.pure hdepend
          (hdiscipline.trans hleaves.2 (hdiscipline.depend visited after name))))

theorem resolveReference (reference : String) :
    Upholds document options inv keeps visited depth (resolveReference reference)
      [.follow reference] :=
  fun path store hsafe => Through.readDocument (resolveWithin hdiscipline _ reference path store hsafe)

/-- A discipline is upheld by every operation. -/
theorem rules : Rules document options (Upholds document options inv keeps) where
  toInlineRules := inlineRules hdiscipline
  readDocument h := h
  collectDependencies h := h.collectDependencies hdiscipline
  claimName base := fun _ _ hsafe =>
    have hclaim := hdiscipline.claim base hsafe.2
    ⟨hsafe, ⟨hsafe.1, hclaim.1⟩, hclaim.2⟩
  resolveReference {_ visited depth reference next _} hnext := by
    intro path store hsafe
    refine Through.bind ((resolveReference hdiscipline reference path store hsafe).runs.mono ?_)
    intro result between hbetween hresolved
    obtain ⟨hrun, hkeeps⟩ := hresolved
    cases result with
    | error error => exact hkeeps
    | ok resolution =>
      show (next resolution).Through _ _ _ _
      rw [circular_of_resolveReference hrun]
      refine (hnext resolution.name path between hbetween).mono fun _ after _ hrest => ?_
      exact hdiscipline.trans hkeeps hrest

/-! ## Named schemas -/

/-- A named schema counts as being resolved while it is lowered; then it is recorded, or forgotten. -/
theorem lowerNamed {entry : NamedSchema} {path : List String} {store : Store}
    {post : Except LoweringError (List Typing.Declaration) → Store → Prop}
    (hsafe : Scope.Safe options inv ⟨path, visited, depth⟩ store)
    (hleave : ∀ inner, entry.pointer ∉ visited → inv (visited ++ [entry.pointer]) inner →
      keeps (visited ++ [entry.pointer]) store inner → Leaves inv keeps visited store inner)
    (hrecord : ∀ inner declarations, Leaves inv keeps visited store inner →
      inv visited (inner.record entry.pointer (Name.pascal entry.name)) ∧
        post (.ok declarations) (inner.record entry.pointer (Name.pascal entry.name)))
    (hforget : ∀ inner error, Leaves inv keeps visited store inner →
      inv visited (inner.forget entry.pointer) ∧
        post (.error error) (inner.forget entry.pointer)) :
    (lowerNamed entry).Through (Scope.Safe options inv)
      (.within document options path visited depth) store post := by
  have hdeclare : ∀ visited', Upholds document options inv keeps visited' depth
      (Lowering.declare (Name.pascal entry.name) entry.schema) _ := fun visited' =>
    (rules hdiscipline).declare (Name.pascal entry.name) entry.schema
  have hlowered : (withVisited entry.pointer (Lowering.declare (Name.pascal entry.name)
      entry.schema)).Through (Scope.Safe options inv) (.within document options path visited depth)
        store fun _ inner => Leaves inv keeps visited store inner := by
    by_cases hvisited : entry.pointer ∈ visited
    · refine Through.withVisited_of_mem hvisited hsafe ((hdeclare visited path store hsafe).mono ?_)
      intro _ inner hinner hkeeps
      exact ⟨hinner, hinner.2, hkeeps⟩
    · have hvisiting : Scope.Safe options inv ⟨path, visited ++ [entry.pointer], depth⟩ store :=
        ⟨hsafe.1, hdiscipline.visit hvisited hsafe.2⟩
      refine Through.withVisited_of_not_mem hvisited hsafe
        ((hdeclare _ path store hvisiting).mono ?_)
      intro _ inner hinner hkeeps
      have hleaves := hleave inner hvisited hinner.2 hkeeps
      exact ⟨⟨hsafe.1, hleaves.1⟩, hleaves⟩
  refine Through.lowerNamed (hlowered.mono fun result inner _ hleaves => ?_)
  cases result with
  | ok declarations =>
    have hrecorded := hrecord inner declarations hleaves
    exact ⟨⟨hsafe.1, hrecorded.1⟩, hrecorded.2⟩
  | error error =>
    have hforgotten := hforget inner error hleaves
    exact ⟨⟨hsafe.1, hforgotten.1⟩, hforgotten.2⟩

end Upholds

end SchemaTypings
