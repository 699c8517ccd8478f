import Mathlib.Data.Set.Card
import Mathlib.Data.Set.Finite.Lattice
import SchemaTypings.Proofs.Document.Mentions
import SchemaTypings.Proofs.Lowering.Bound
import SchemaTypings.Proofs.Lowering.Calls
import SchemaTypings.Proofs.Lowering.Declared

/-!
# References that are resolved within each other

At every moment of a call, the references that were entered since it began are no two the same, and each
stands in what the call lowers or in a schema of the document. So no more of them are ever active than
there are such references (`Context.lowering_terminates`), although a call may follow references around
cycles.
-/

namespace SchemaTypings

open LowerM Lowering

/-! ## Where references stand -/

/-- `document.Mentions reference`: the reference stands in a schema that the document holds somewhere. -/
def Document.Mentions (document : Document) (reference : String) : Prop :=
  ∃ place target, document.resolve? place = some target ∧ target.Mentions reference

theorem Schema.finite_mentions (schema : Schema) :
    {reference | schema.Mentions reference}.Finite := by
  induction schema using Schema.inductionOn with
  | step schema ih =>
    have hkind : {reference | schema.kind = .ref reference}.Finite := by
      refine Set.Subsingleton.finite fun first hfirst second hsecond => ?_
      cases hfirst.symm.trans hsecond
      rfl
    refine (hkind.union (Set.Finite.biUnion schema.children.finite_toSet ih)).subset
      fun reference h => ?_
    rcases mentions_iff.mp h with hown | ⟨child, hchild, hbelow⟩
    · exact Or.inl hown
    · exact Or.inr (Set.mem_biUnion hchild hbelow)

theorem Document.Local.finite_mentions {document : Document} (hlocal : document.Local) :
    {reference | document.Mentions reference}.Finite :=
  document.raw.strings.finite_toSet.subset fun reference ⟨place, target, htarget, hmention⟩ =>
    hlocal place target reference htarget hmention

/-! ## Steps -/

/-- The references being resolved are `visited` and those that were entered since, each of them once and
because it was asked for. -/
def Scope.Entered (visited : List String) (asked : String → Prop) (scope : Scope) : Prop :=
  ∃ active, scope.visited = visited ++ active ∧ active.Nodup ∧
    ∀ reference ∈ active, reference ∉ visited ∧ asked reference

theorem Scope.Entered.refl {visited path : List String} {depth : Nat} {asked : String → Prop} :
    Entered visited asked ⟨path, visited, depth⟩ :=
  ⟨[], by simp⟩

theorem Scope.Entered.mono {visited : List String} {asked asked' : String → Prop} {scope : Scope}
    (h : Entered visited asked scope) (himp : ∀ reference, asked reference → asked' reference) :
    Entered visited asked' scope := by
  obtain ⟨active, hvisited, hnodup, hasked⟩ := h
  exact ⟨active, hvisited, hnodup, fun reference hmem =>
    (hasked reference hmem).imp_right (himp reference)⟩

/-- What was entered within a reference, and the reference itself. -/
theorem Scope.Entered.leave {visited : List String} {asked : String → Prop} {scope : Scope}
    {reference : String} (h : Entered (visited ++ [reference]) asked scope)
    (hnew : reference ∉ visited) (hasked : asked reference) : Entered visited asked scope := by
  obtain ⟨active, hvisited, hnodup, hactive⟩ := h
  refine ⟨reference :: active, by simpa using hvisited, ?_, ?_⟩
  · refine List.nodup_cons.mpr ⟨fun hmem => ?_, hnodup⟩
    exact (hactive reference hmem).1 (by simp)
  · refine List.forall_mem_cons.mpr ⟨⟨hnew, hasked⟩, fun other hmem => ?_⟩
    exact ⟨fun hvisited => (hactive other hmem).1 (by simp [hvisited]), (hactive other hmem).2⟩

/-- Wherever the step is run, each reference that it enters is one that it asks to follow, or stands in
the document. -/
def Enters (document : Document) (options : Options) {α : Type} (visited : List String)
    (depth : Nat) (step : LowerM α) (demands : List Demand) : Prop :=
  ∀ path store, step.Through (fun scope _ => scope.Entered visited fun reference =>
      .follow reference ∈ demands ∨ document.Mentions reference)
    (.within document options path visited depth) store fun _ _ => True

namespace Enters

variable {document : Document} {options : Options} {visited : List String} {depth : Nat} {α β : Type}
  {step : LowerM α} {demands others : List Demand} {reference : String}

theorem mono (h : Enters document options visited depth step demands)
    (himp : ∀ reference, .follow reference ∈ demands →
      .follow reference ∈ others ∨ document.Mentions reference) :
    Enters document options visited depth step others := by
  intro path store
  refine (h path store).weaken fun scope _ hscope => hscope.mono fun reference hasked => ?_
  rcases hasked with hfollow | hmention
  · exact himp reference hfollow
  · exact Or.inr hmention

theorem bind {next : α → LowerM β} (h : Enters document options visited depth step demands)
    (hnext : ∀ value, Enters document options visited depth (next value) others) :
    Enters document options visited depth (step >>= next) (demands ++ others) := by
  have hstep : Enters document options visited depth step (demands ++ others) :=
    h.mono fun _ h => Or.inl (List.mem_append_left _ h)
  intro path store
  refine Through.bind ((hstep path store).mono fun result after _ _ => ?_)
  cases result with
  | error error => exact trivial
  | ok value =>
    exact (hnext value).mono (fun _ h => Or.inl (List.mem_append_right _ h)) path after

theorem withSegment (segment : String) (h : Enters document options visited depth step demands) :
    Enters document options visited depth (LowerM.withSegment segment step) demands :=
  fun path store => Through.inFrame .refl
    ((h (path ++ [segment]) store).mono fun _ _ _ _ => ⟨.refl, trivial⟩)

theorem descend (segment : String) (h : Enters document options visited (depth + 1) step demands) :
    Enters document options visited depth (LowerM.descend segment step)
      (options.levelDemands depth ++ demands) := by
  have hstep : Enters document options visited (depth + 1) step
      (options.levelDemands depth ++ demands) :=
    h.mono fun _ h => Or.inl (List.mem_append_right _ h)
  intro path store
  show (ite _ _ _ : LowerM α).Through _ _ _ _
  split
  · exact Through.throw .refl trivial
  · exact Through.inFrame .refl
      ((hstep (path ++ [segment]) store).mono fun _ _ _ _ => ⟨.refl, trivial⟩)

theorem scopedDependencies (merge : List String → List String → List String)
    (h : Enters document options visited depth step demands) :
    Enters document options visited depth (LowerM.scopedDependencies merge step) demands :=
  fun path _ => Through.scopedDependencies .refl
    ((h path _).mono fun _ _ _ _ => ⟨.refl, trivial⟩)

theorem inlineRules : InlineRules options (Enters document options) where
  congr h hsame := h.mono fun _ hdemand => Or.inl ((hsame _).mp hdemand)
  pure _ := fun _ _ => Through.pure .refl trivial
  bind := bind
  readOptions h := h
  refuse _ := fun _ _ => Through.throw .refl trivial
  warn _ := fun _ _ => Through.modify .refl .refl trivial
  withSegment := withSegment
  descend := descend

theorem asDeclaration (name : String) (h : Enters document options visited 0 step demands) :
    Enters document options visited depth (asDeclaration name step) demands := by
  have hisolated := (inlineRules.map (·.1) (h.scopedDependencies fun outer _ => outer)).withSegment name
  exact fun path store => Through.inFrame .refl
    ((hisolated path store).mono fun _ _ _ _ => ⟨.refl, trivial⟩)

/-! ## References -/

theorem modifyThen {change : Store → Store} (h : Enters document options visited depth step demands) :
    Enters document options visited depth (modify change >>= fun _ => step) demands :=
  have hmodified : Enters document options visited depth (modify change : LowerM PUnit) [] :=
    fun _ _ => Through.modify .refl .refl trivial
  inlineRules.bind hmodified fun _ => h

theorem attempt (h : Enters document options visited depth step demands) :
    Enters document options visited depth (LowerM.attempt step) demands :=
  fun path store => Through.attempt ((h path store).mono fun _ _ _ _ => trivial)

theorem resolveNamed {target : LowerM String}
    (h : Enters document options visited 0 target demands) :
    Enters document options visited depth (resolveNamed target reference) demands :=
  inlineRules.bindNone (h.asDeclaration _) fun _ => modifyThen (inlineRules.pure _)

theorem declareBelow {target : LowerM String} (name : String)
    (h : Enters document options visited 0 target demands) :
    Enters document options visited depth (declareBelow target reference name) demands := by
  have htarget : Enters document options visited depth
      (LowerM.attempt (Lowering.asDeclaration name (LowerM.collectDependencies target))) demands :=
    ((h.scopedDependencies _).asDeclaration name).attempt
  refine modifyThen (inlineRules.bindNone htarget fun result => ?_)
  cases result with
  | error error => exact modifyThen fun _ _ => Through.throw .refl trivial
  | ok described =>
    exact inlineRules.readOptions (modifyThen (inlineRules.pure _))

theorem claimName (base : String) :
    Enters document options visited depth (LowerM.claimName base) [] :=
  fun _ _ => ⟨.refl, .refl, trivial⟩

theorem resolveBelow {target : LowerM String}
    (h : Enters document options visited 0 target demands) :
    Enters document options visited depth (resolveBelow target reference) demands := by
  intro path store
  rw [resolveBelow_eq]
  refine Through.readDocument ?_
  dsimp only [Setting.within]
  cases document.alias? reference with
  | some reserved => exact h.declareBelow reserved path store
  | none => exact inlineRules.bind (claimName _) (fun name => h.declareBelow name) path store

/-- The target of a new reference stands in the document, and so do the references in it. -/
theorem resolveFresh {lower : Schema → LowerM String} (hlower : ∀ target,
      Enters document options visited 0 (lower target) (target.demands options 0)) :
    Enters document options visited depth (resolveFresh lower reference) [] := by
  intro path store
  refine Through.readRecorded .refl ?_
  cases store.types.lookup reference with
  | some name => exact Through.pure .refl trivial
  | none =>
    refine Through.readDocument ?_
    dsimp only [Setting.within]
    cases htarget : document.resolve? reference with
    | none => exact Through.throw .refl trivial
    | some target =>
      have hmentioned : Enters document options visited 0 (lower target) [] :=
        (hlower target).mono fun next hnext =>
          Or.inr ⟨reference, target, htarget, Schema.follow_mem_demands.mp hnext⟩
      show (ite _ _ _ : LowerM String).Through _ _ _ _
      split
      · exact hmentioned.resolveNamed path store
      · exact hmentioned.resolveBelow path store

theorem forwardReference (reference : String) :
    Enters document options visited depth (forwardReference reference) demands :=
  fun _ _ => Through.readDocument (Through.readRecorded .refl
    (Through.bind (Through.modify .refl .refl (Through.pure .refl trivial))))

theorem resolveWithin (active : Nat) (reference : String) :
    Enters document options visited depth (resolveWithin active reference) [.follow reference] := by
  induction active generalizing visited depth reference with
  | zero => exact forwardReference reference
  | succ active ih =>
    intro path store
    refine Through.readScope ?_
    show (ite (visited.contains reference = true) _ _ : LowerM Resolution).Through _ _ _ _
    by_cases hvisited : reference ∈ visited
    · rw [if_pos (by simpa using hvisited)]
      exact forwardReference reference path store
    · rw [if_neg (by simpa using hvisited)]
      have hfresh : Enters document options (visited ++ [reference]) depth
          (Lowering.resolveFresh (typeOf fun next => Resolution.name <$>
            Lowering.resolveWithin active next) reference) [] :=
        resolveFresh fun target => inlineRules.typeOf fun next _ _ => inlineRules.map _ (ih next)
      have hleave : ∀ scope : Scope, scope.Entered (visited ++ [reference]) (fun other =>
          .follow other ∈ ([] : List Demand) ∨ document.Mentions other) →
            scope.Entered visited fun other =>
              .follow other ∈ [Demand.follow reference] ∨ document.Mentions other := by
        intro scope hscope
        refine (hscope.mono fun other hother => ?_).leave hvisited (Or.inl (by simp))
        exact Or.inr (hother.resolve_left List.not_mem_nil)
      have hentered := (hfresh path store).weaken fun scope _ => hleave scope
      refine Through.bind (Through.withVisited_of_not_mem hvisited .refl
        (hentered.mono fun result after _ _ => ⟨.refl, ?_⟩))
      cases result with
      | error error => exact trivial
      | ok name => exact Through.bind (Through.modify .refl .refl (Through.pure .refl trivial))

theorem resolveReference (reference : String) :
    Enters document options visited depth (resolveReference reference) [.follow reference] :=
  fun path store => Through.readDocument (resolveWithin _ reference path store)

/-- Every operation enters references that it asks to follow, or that stand in the document. -/
theorem rules : Rules document options (Enters document options) where
  toInlineRules := inlineRules
  readDocument h := h
  collectDependencies h := h.scopedDependencies _
  claimName := claimName
  resolveReference {_ visited depth reference next demands} hnext := by
    have hreference : Enters document options visited depth
        (Lowering.resolveReference reference) (.follow reference :: demands) := by
      refine mono (resolveReference reference) fun other hother => Or.inl ?_
      rw [List.mem_singleton] at hother
      exact hother ▸ List.mem_cons_self
    intro path store
    refine Through.bind (((hreference path store).runs).mono ?_)
    intro result between _ hresolved
    cases result with
    | error error => exact trivial
    | ok resolution =>
      show (next resolution).Through _ _ _ _
      rw [circular_of_resolveReference hresolved.1]
      exact (hnext resolution.name).mono (fun other h => Or.inl (List.mem_cons_of_mem _ h))
        path between

end Enters

/-- The references being resolved at a moment of a call: those before it, its own pointer while it lowers
a named schema, and those that were entered since. -/
def Call.Resolving (document : Document) (call : Call) (visited : List String) (scope : Scope) : Prop :=
  ∃ own active, scope.visited = visited ++ own ++ active ∧ own <+: call.ownPointer?.toList ∧
    active.Nodup ∧ ∀ reference ∈ active, document.Mentions reference ∨ call.schema.Mentions reference

variable {document : Document} {options : Options} {visited : List String}

theorem Scope.Entered.resolving {call : Call} {own : List String} {asked : String → Prop}
    {scope : Scope} (h : scope.Entered (visited ++ own) asked)
    (hown : own <+: call.ownPointer?.toList)
    (hasked : ∀ reference, asked reference →
      document.Mentions reference ∨ call.schema.Mentions reference) :
    call.Resolving document visited scope := by
  obtain ⟨active, hvisited, hnodup, hactive⟩ := h
  exact ⟨own, active, hvisited, hown, hnodup, fun reference hmem =>
    hasked reference (hactive reference hmem).2⟩

/-- What a call enters while it lowers a named schema stands in that schema, or in the document. -/
theorem Call.through_lowerNamed (entry : NamedSchema) (path : List String) (depth : Nat)
    (store : Store) : (Lowering.lowerNamed entry).Through
      (fun scope _ => Call.Resolving document (.lowerNamed entry) visited scope)
      (.within document options path visited depth) store fun _ _ => True := by
  have hstart : Call.Resolving document (.lowerNamed entry) visited ⟨path, visited, depth⟩ :=
    ⟨[], [], by simp⟩
  have hasked : ∀ visited' reference, (.follow reference ∈ declareDemands document options visited'
      depth entry.schema ∨ document.Mentions reference) →
        document.Mentions reference ∨ entry.schema.Mentions reference := by
    intro visited' reference h
    refine h.symm.imp_right fun h => ?_
    exact Schema.follow_mem_demands.mp ((Refines.declare entry.schema).follow reference h)
  have hdeclare : ∀ own, own <+: [entry.pointer] →
      (Lowering.declare (Name.pascal entry.name) entry.schema).Through
        (fun scope _ => Call.Resolving document (.lowerNamed entry) visited scope)
        (.within document options path (visited ++ own) depth) store fun _ _ => True := by
    intro own hown
    have henters : Enters document options (visited ++ own) depth
        (Lowering.declare (Name.pascal entry.name) entry.schema) _ :=
      Enters.rules.declare (Name.pascal entry.name) entry.schema
    exact (henters path store).weaken fun scope _ hscope =>
      hscope.resolving hown (hasked _)
  have hlowered : (withVisited entry.pointer
      (Lowering.declare (Name.pascal entry.name) entry.schema)).Through
        (fun scope _ => Call.Resolving document (.lowerNamed entry) visited scope)
        (.within document options path visited depth) store fun _ _ => True := by
    by_cases hvisited : entry.pointer ∈ visited
    · have hown := hdeclare [] List.nil_prefix
      rw [List.append_nil] at hown
      exact Through.withVisited_of_mem hvisited hstart (hown.mono fun _ _ _ _ => ⟨hstart, trivial⟩)
    · exact Through.withVisited_of_not_mem hvisited hstart
        ((hdeclare _ (List.prefix_refl _)).mono fun _ _ _ _ => ⟨hstart, trivial⟩)
  exact Through.lowerNamed (hlowered.mono fun _ _ _ _ => ⟨hstart, trivial⟩)

theorem Call.through (call : Call) (path : List String) (depth : Nat) (store : Store) :
    call.step.Through (fun scope _ => call.Resolving document visited scope)
      (.within document options path visited depth) store fun _ _ => True := by
  cases hown : call.ownPointer? with
  | some pointer =>
    obtain ⟨entry, rfl⟩ := Call.eq_lowerNamed hown
    exact through_lowerNamed entry path depth store
  | none =>
    obtain ⟨demands, henters, hmentions⟩ : ∃ demands,
        Enters document options visited depth call.step demands ∧
          ∀ reference, .follow reference ∈ demands → call.schema.Mentions reference :=
      Enters.rules.call call hown
    refine (henters path store).weaken fun scope _ hscope => ?_
    rw [← List.append_nil visited] at hscope
    exact hscope.resolving List.nil_prefix fun reference hasked =>
      hasked.symm.imp_right (hmentions reference)

namespace Context

/-- Lowering ends on every document. A reference is resolved by a recursion that has no bound, and if it
is given one that exceeds the strings of the document, nothing is ever done beyond. At every moment of a
call the references entered since its start are no two the same, and no more than stand in the document
and in what the call lowers. -/
theorem lowering_terminates {raw : Json} (h : Document.ofJson raw = .ok document) (context : Context)
    (hcontext : context.document = document) :
    (∀ reference, context.run (resolveReference reference) =
      context.run (resolveBy resolveReference reference)) ∧
    (∀ reference beyond bound, document.referenceBound < bound →
      context.run (resolveReference reference) = context.run (resolveUpTo beyond bound reference)) ∧
    ∀ call : Call, ∀ moment ∈ context.moments call.step, ∃ own active,
      moment.scope.visited = context.scope.visited ++ own ++ active ∧
      own <+: call.ownPointer?.toList ∧ active.Nodup ∧
      active.length ≤ {reference | document.Mentions reference ∨ call.schema.Mentions reference}.ncard := by
  subst hcontext
  have hlocal := Document.local_of_ofJson h
  refine ⟨fun reference => (sameRuns_resolveBy hlocal reference).run_eq,
    fun reference beyond bound hbound =>
      (sameRuns_resolveReference hlocal reference beyond hbound).run_eq, fun call moment hmoment => ?_⟩
  obtain ⟨own, active, hvisited, hown, hnodup, hactive⟩ :=
    (Through.run context (call.through context.scope.path context.scope.depth context.store)).1
      moment hmoment
  refine ⟨own, active, hvisited, hown, hnodup, ?_⟩
  have hfinite := hlocal.finite_mentions.union call.schema.finite_mentions
  rw [← List.toFinset_card_of_nodup hnodup, ← Set.ncard_coe_finset]
  exact Set.ncard_le_ncard (fun reference hmem => hactive reference (by simpa using hmem)) hfinite

/-- Two schemas that refer to each other, to the whole document, and into one another. -/
theorem lowering_terminates_of_cycle : ∃ document,
    Document.ofJson (.obj [("oneOf", .arr [.obj [("$ref", .str "#/$defs/A")]]),
      ("$defs", .obj [
        ("A", .obj [("properties", .obj [("b", .obj [("$ref", .str "#/$defs/B")]),
          ("all", .obj [("$ref", .str "#")])])]),
        ("B", .obj [("properties", .obj [("a", .obj [("$ref", .str "#/$defs/A")]),
          ("deep", .obj [("$ref", .str "#/$defs/A/properties/all")])])])])]) = .ok document ∧
    (∃ moment ∈ (fresh document {}).moments (Call.describe ⟨.ref "#/$defs/A", {}⟩).step,
      moment.scope.visited.length = 4) ∧
    (fresh document {}).run (resolveReference "#/$defs/A") =
      (fresh document {}).run (resolveBy resolveReference "#/$defs/A") ∧
    (fresh document {}).run (resolveReference "#/$defs/A") =
      (fresh document {}).run (resolveUpTo (fun _ => throw (.tooDeep "" 0 0))
        (document.referenceBound + 1) "#/$defs/A") ∧
    ∀ moment ∈ (fresh document {}).moments (Call.describe ⟨.ref "#/$defs/A", {}⟩).step,
      ∃ own active, moment.scope.visited = [] ++ own ++ active ∧ own <+: [] ∧ active.Nodup ∧
        active.length ≤ {reference | document.Mentions reference ∨
          Schema.Mentions ⟨.ref "#/$defs/A", {}⟩ reference}.ncard := by
  have hreached : ((Document.ofJson (.obj [("oneOf", .arr [.obj [("$ref", .str "#/$defs/A")]]),
      ("$defs", .obj [
        ("A", .obj [("properties", .obj [("b", .obj [("$ref", .str "#/$defs/B")]),
          ("all", .obj [("$ref", .str "#")])])]),
        ("B", .obj [("properties", .obj [("a", .obj [("$ref", .str "#/$defs/A")]),
          ("deep", .obj [("$ref", .str "#/$defs/A/properties/all")])])])])])).toOption.any
      fun document => ((fresh document {}).moments
        (Call.describe ⟨.ref "#/$defs/A", {}⟩).step).any fun moment =>
          moment.scope.visited.length == 4) = true := by decide +kernel
  obtain ⟨document, hdocument, hreached⟩ := Decode.exists_ok_of_any hreached
  obtain ⟨moment, hmoment, hlength⟩ := List.any_eq_true.mp hreached
  obtain ⟨hunbounded, hbounded, hactive⟩ := lowering_terminates hdocument (fresh document {}) rfl
  exact ⟨document, hdocument, ⟨moment, hmoment, by simpa using hlength⟩, hunbounded _,
    hbounded _ _ _ (Nat.lt_succ_self _), hactive (.describe ⟨.ref "#/$defs/A", {}⟩)⟩

end Context

end SchemaTypings
