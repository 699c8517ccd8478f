import SchemaTypings.Proofs.Lowering.Calls
import SchemaTypings.Proofs.Lowering.Spelled
import SchemaTypings.Proofs.Name.Pascal

/-!
# Histories of claimed names

A run of a step claims names one after another (`LowerM.Makes`); every other change of the store that it
makes leaves the used names as they are. All operations are built so (`Context.makes_call`), whether they
succeed or fail. Hence the used names of a context that was never reset are the reserved ones followed by
those claimed since, in order, and a name that is claimed next differs from all of them: what a failed
operation claimed stays used.
-/

namespace SchemaTypings

open LowerM Lowering

/-- A claim: the base asked for, and the name given. -/
structure Claim where
  base : String
  name : String
  deriving DecidableEq, Repr

namespace LowerM

/-- The claims that a run of a step makes, in order. A change of the store is a claim, or leaves the used
names as they are. -/
inductive Makes : {α : Type} → LowerM α → Setting → Store → List Claim → Prop
  | done {α : Type} {setting : Setting} {store : Store} (result : Except LoweringError α) :
    Makes (.done result) setting store []
  | reading {α : Type} {setting : Setting} {store : Store} {next : Setting → LowerM α}
    {claims : List Claim} (h : Makes (next setting) setting store claims) :
    Makes (.reading next) setting store claims
  | claiming {α : Type} {setting : Setting} {store : Store} {base : String} {next : String → LowerM α}
    {claims : List Claim} (h : Makes (next (store.claim base).1) setting (store.claim base).2 claims) :
    Makes (.changing (Store.claim base) next) setting store (⟨base, (store.claim base).1⟩ :: claims)
  | changing {α β : Type} {setting : Setting} {store : Store} {change : Store → β × Store}
    {next : β → LowerM α} {claims : List Claim}
    (hnames : (change store).2.usedNames = store.usedNames)
    (h : Makes (next (change store).1) setting (change store).2 claims) :
    Makes (.changing change next) setting store claims
  | within {α β : Type} {setting : Setting} {store : Store} {frame : Frame} {step : LowerM β}
    {next : Except LoweringError β → LowerM α} {first rest : List Claim}
    (h : Makes step { setting with scope := frame.enter setting.scope } store first)
    (hrest : Makes
      (next (step.runWith { setting with scope := frame.enter setting.scope } store).1) setting
      (step.runWith { setting with scope := frame.enter setting.scope } store).2 rest) :
    Makes (.within frame step next) setting store (first ++ rest)

variable {α β : Type} {setting : Setting} {store : Store} {step : LowerM α} {claims : List Claim}

/-- A run adds the names that it claims to the used ones, and no others. -/
theorem Makes.usedNames (h : step.Makes setting store claims) :
    (step.runWith setting store).2.usedNames = store.usedNames ++ claims.map Claim.name := by
  induction h with
  | done result => exact (List.append_nil _).symm
  | reading _ ih => exact ih
  | claiming _ ih =>
    rw [runWith, ih, List.map_cons, List.append_cons]
    rfl
  | changing hnames _ ih => rw [runWith, ih, hnames]
  | within _ _ ih ihrest => rw [runWith, ihrest, ih, List.map_append, List.append_assoc]

theorem Makes.andThen {next : Except LoweringError α → LowerM β} {rest : List Claim}
    (h : step.Makes setting store claims)
    (hrest : (next (step.runWith setting store).1).Makes setting (step.runWith setting store).2 rest) :
    (step.andThen next).Makes setting store (claims ++ rest) := by
  induction h with
  | done result => exact hrest
  | reading _ ih => exact .reading (ih hrest)
  | claiming _ ih => exact .claiming (ih hrest)
  | changing hnames _ ih => exact .changing hnames (ih hrest)
  | within h _ _ ih =>
    rw [List.append_assoc]
    exact .within h (ih hrest)

/-- The run of the step makes some claims: whatever else it does to the store leaves the used names. -/
def Claimable (step : LowerM α) (setting : Setting) (store : Store) : Prop :=
  ∃ claims, step.Makes setting store claims

namespace Claimable

theorem of_done (result : Except LoweringError α) : (done result).Claimable setting store :=
  ⟨[], .done result⟩

theorem andThen {next : Except LoweringError α → LowerM β} (h : step.Claimable setting store)
    (hnext : ∀ result after, step.runWith setting store = (result, after) →
      (next result).Claimable setting after) : (step.andThen next).Claimable setting store := by
  obtain ⟨claims, hclaims⟩ := h
  obtain ⟨rest, hrest⟩ := hnext _ _ rfl
  exact ⟨claims ++ rest, hclaims.andThen hrest⟩

theorem bind {next : α → LowerM β} (h : step.Claimable setting store)
    (hnext : ∀ value after, step.runWith setting store = (.ok value, after) →
      (next value).Claimable setting after) : (step >>= next).Claimable setting store := by
  refine andThen h fun result after hrun => ?_
  cases result with
  | ok value => exact hnext value after hrun
  | error error => exact of_done _

theorem map (f : α → β) (h : step.Claimable setting store) : (f <$> step).Claimable setting store := by
  rw [← bind_pure_comp]
  exact bind h fun value _ _ => of_done (.ok (f value))

theorem readDocument {next : Document → LowerM α} (h : (next setting.document).Claimable setting store) :
    (document >>= next).Claimable setting store :=
  h.imp fun _ => .reading

theorem readOptions {next : Options → LowerM α} (h : (next setting.options).Claimable setting store) :
    (options >>= next).Claimable setting store :=
  h.imp fun _ => .reading

theorem readScope {next : Scope → LowerM α} (h : (next setting.scope).Claimable setting store) :
    (scope >>= next).Claimable setting store :=
  h.imp fun _ => .reading

theorem readRecorded {reference : String} {next : Option String → LowerM α}
    (h : (next (store.types.lookup reference)).Claimable setting store) :
    (recorded? reference >>= next).Claimable setting store :=
  h.imp fun _ => .changing rfl

theorem get : (MonadState.get : LowerM Store).Claimable setting store :=
  ⟨[], .changing rfl (.done _)⟩

/-- A change that leaves the used names is no claim. -/
theorem modify {change : Store → Store} (hnames : (change store).usedNames = store.usedNames) :
    (modify change : LowerM PUnit).Claimable setting store :=
  ⟨[], .changing hnames (.done _)⟩

theorem claimName (base : String) : (claimName base).Claimable setting store :=
  ⟨_, .claiming (.done _)⟩

theorem inFrame {frame : Frame}
    (h : step.Claimable { setting with scope := frame.enter setting.scope } store) :
    (inFrame frame step).Claimable setting store := by
  obtain ⟨claims, hclaims⟩ := h
  exact ⟨claims ++ [], .within hclaims (.done _)⟩

theorem attempt (h : step.Claimable setting store) : (attempt step).Claimable setting store :=
  andThen h fun result _ _ => of_done (.ok result)

theorem scopedDependencies (merge : List String → List String → List String)
    (h : ∀ store, step.Claimable setting store) :
    (scopedDependencies merge step).Claimable setting store := by
  refine bind get fun outer _ _ => bind (modify rfl) fun _ inner _ => ?_
  refine bind (attempt (h inner)) fun result _ _ => bind get fun _ _ _ => bind (modify rfl) fun _ _ _ => ?_
  cases result with
  | ok value => exact of_done _
  | error error => exact of_done _

end Claimable

end LowerM

/-! ## Operations -/

/-- Wherever the step is run from, it claims names, and leaves the used names otherwise. -/
def Claimables (document : Document) (options : Options) {α : Type} (visited : List String) (depth : Nat)
    (step : LowerM α) (_ : List Demand) : Prop :=
  ∀ path store, step.Claimable (.within document options path visited depth) store

namespace Claimables

variable {document : Document} {options : Options} {visited : List String} {depth : Nat} {α : Type}
  {step : LowerM α} {demands : List Demand} {reference : String}

theorem isolateDependencies (h : Claimables document options visited depth step demands) :
    Claimables document options visited depth (LowerM.isolateDependencies step) demands :=
  fun path _ => Claimable.map _ (Claimable.scopedDependencies _ (h path))

theorem collectDependencies (h : Claimables document options visited depth step demands) :
    Claimables document options visited depth (LowerM.collectDependencies step) demands :=
  fun path _ => Claimable.scopedDependencies _ (h path)

theorem inlineRules : InlineRules options (Claimables document options) where
  congr h _ := h
  pure value := fun _ _ => .of_done (.ok value)
  bind h hnext := fun path store => Claimable.bind (h path store) fun value after _ =>
    hnext value path after
  readOptions h := fun path store => Claimable.readOptions (h path store)
  refuse _ := fun _ _ => Claimable.readScope (.of_done _)
  warn _ := fun _ _ => Claimable.modify rfl
  withSegment segment h := fun path store => Claimable.inFrame (h (path ++ [segment]) store)
  descend {α visited depth step _} segment h := fun path store => by
    refine Claimable.readScope (Claimable.readOptions ?_)
    show (ite _ _ _ : LowerM α).Claimable _ _
    split
    · exact .of_done _
    · exact Claimable.inFrame (h (path ++ [segment]) store)

theorem withVisited (reference : String) {inside : List String → List Demand}
    (h : ∀ visited, Claimables document options visited depth step (inside visited)) :
    Claimables document options visited depth (LowerM.withVisited reference step) demands := by
  intro path store
  have hvisit : ∃ others, (Frame.visiting reference).enter ⟨path, visited, depth⟩ =
      ⟨path, others, depth⟩ := by
    simp only [Frame.enter, Scope.visit]
    split <;> exact ⟨_, rfl⟩
  obtain ⟨others, henter⟩ := hvisit
  refine Claimable.inFrame ?_
  rw [Setting.within, henter]
  exact h others path store

theorem asDeclaration (name : String) (h : Claimables document options visited 0 step demands) :
    Claimables document options visited depth (asDeclaration name step) demands := fun path store =>
  Claimable.inFrame (inlineRules.withSegment name h.isolateDependencies path store)

theorem resolveNamed {target : LowerM String} (h : Claimables document options visited 0 target demands) :
    Claimables document options visited depth (resolveNamed target reference) demands := fun path store =>
  Claimable.bind (h.asDeclaration _ path store) fun _ _ _ =>
    Claimable.bind (Claimable.modify rfl) fun _ _ _ => .of_done _

theorem declareBelow {target : LowerM String} (name : String)
    (h : Claimables document options visited 0 target demands) :
    Claimables document options visited depth (declareBelow target reference name) demands := by
  intro path store
  refine Claimable.bind (Claimable.modify rfl) fun _ entered _ => ?_
  refine Claimable.bind (.attempt (h.collectDependencies.asDeclaration name path entered)) ?_
  intro result inner _
  cases result with
  | error error => exact Claimable.bind (Claimable.modify rfl) fun _ _ _ => .of_done _
  | ok described =>
    exact Claimable.readOptions (Claimable.bind (Claimable.modify rfl) fun _ _ _ => .of_done _)

theorem resolveBelow {target : LowerM String} (h : Claimables document options visited 0 target demands) :
    Claimables document options visited depth (resolveBelow target reference) demands := by
  intro path store
  rw [resolveBelow_eq]
  refine Claimable.readDocument ?_
  dsimp only [Setting.within]
  cases document.alias? reference with
  | some reserved => exact h.declareBelow reserved path store
  | none =>
    exact Claimable.bind (.claimName _) fun name claimed _ => h.declareBelow name path claimed

theorem resolveFresh {lower : Schema → LowerM String}
    (hlower : ∀ target, Claimables document options visited 0 (lower target) (target.demands options 0)) :
    Claimables document options visited depth (resolveFresh lower reference) [.follow reference] := by
  intro path store
  refine Claimable.readRecorded ?_
  cases store.types.lookup reference with
  | some name => exact .of_done _
  | none =>
    refine Claimable.readDocument ?_
    dsimp only [Setting.within]
    cases document.resolve? reference with
    | none => exact Claimable.readScope (.of_done _)
    | some target =>
      show (ite _ _ _ : LowerM String).Claimable _ _
      split
      · exact (hlower target).resolveNamed path store
      · exact (hlower target).resolveBelow path store

theorem forwardReference (reference : String) :
    Claimables document options visited depth (forwardReference reference) [.follow reference] := fun _ _ =>
  Claimable.readDocument (Claimable.readRecorded
    (Claimable.bind (Claimable.modify rfl) fun _ _ _ => .of_done _))

/-- The induction is on how many more references may be entered; within one, the target is a type
expression, which obeys the rules. -/
theorem resolveWithin (active : Nat) (reference : String) :
    Claimables document options visited depth (resolveWithin active reference) [.follow reference] := by
  induction active generalizing visited depth reference with
  | zero => exact forwardReference reference
  | succ active ih =>
    intro path store
    refine Claimable.readScope ?_
    show (ite (visited.contains reference = true) _ _ : LowerM Resolution).Claimable _ _
    by_cases hvisited : reference ∈ visited
    · rw [if_pos (by simpa using hvisited)]
      exact forwardReference reference path store
    · have hfresh : Claimables document options visited depth (LowerM.withVisited reference
          (Lowering.resolveFresh (typeOf fun target => Resolution.name <$>
            Lowering.resolveWithin active target) reference)) [.follow reference] :=
        withVisited reference fun _ => resolveFresh fun target =>
          inlineRules.typeOf fun next _ _ => inlineRules.map _ (ih next)
      rw [if_neg (by simpa using hvisited)]
      exact Claimable.bind (hfresh path store) fun _ _ _ =>
        Claimable.bind (Claimable.modify rfl) fun _ _ _ => .of_done _

theorem rules : Rules document options (Claimables document options) where
  toInlineRules := inlineRules
  readDocument h := fun path store => Claimable.readDocument (h path store)
  collectDependencies h := h.collectDependencies
  claimName base := fun _ _ => .claimName base
  resolveReference {_ visited depth reference next _} hnext := by
    intro path store
    refine Claimable.bind (Claimable.readDocument (resolveWithin _ reference path store)) ?_
    intro resolution after hrun
    rw [circular_of_resolveReference hrun]
    exact hnext resolution.name path after

theorem lowerNamed (entry : NamedSchema) :
    Claimables document options visited depth (lowerNamed entry) [] := by
  intro path store
  have hdeclare : Claimables document options visited depth (LowerM.withVisited entry.pointer
      (Lowering.declare (Name.pascal entry.name) entry.schema)) [] :=
    withVisited _ fun _ => rules.declare (Name.pascal entry.name) entry.schema
  refine Claimable.bind (.attempt (hdeclare path store)) fun result after _ => ?_
  cases result with
  | ok declarations => exact Claimable.bind (Claimable.modify rfl) fun _ _ _ => .of_done _
  | error error => exact Claimable.bind (Claimable.modify rfl) fun _ _ _ => .of_done _

theorem call (call : Call) : ∃ demands, Claimables document options visited depth call.step demands := by
  cases hcall : call.ownPointer? with
  | some pointer =>
    obtain ⟨entry, rfl⟩ := Call.eq_lowerNamed hcall
    exact ⟨_, lowerNamed entry⟩
  | none =>
    obtain ⟨demands, hclaimables, -⟩ := rules.call call hcall
    exact ⟨demands, hclaimables⟩

end Claimables

/-! ## Names that are apart -/

/-- The claimed names differ from those that were taken before and from one another, and each is made of
its base. -/
structure Claim.Apart (taken : List String) (claims : List Claim) : Prop where
  distinct : (claims.map Claim.name).Nodup
  free : ∀ claim ∈ claims, claim.name ∉ taken
  made : ∀ claim ∈ claims, ∃ used, claim.name = Name.fresh "" used (Name.pascal claim.base)

namespace Claim.Apart

variable {taken : List String} {claims first rest : List Claim} {claim : Claim}

theorem nil (taken : List String) : Apart taken [] :=
  ⟨List.nodup_nil, nofun, nofun⟩

/-- What is claimed with the first names taken is apart from them. -/
theorem append (h : Apart taken first) (hrest : Apart (taken ++ first.map Claim.name) rest) :
    Apart taken (first ++ rest) where
  distinct := by
    rw [List.map_append]
    refine h.distinct.append hrest.distinct ?_
    intro name hname hother
    obtain ⟨claim, hclaim, rfl⟩ := List.mem_map.mp hother
    exact hrest.free claim hclaim (List.mem_append_right _ hname)
  free claim hclaim := by
    rcases List.mem_append.mp hclaim with hclaim | hclaim
    · exact h.free claim hclaim
    · exact fun htaken => hrest.free claim hclaim (List.mem_append_left _ htaken)
  made claim hclaim := (List.mem_append.mp hclaim).elim (h.made claim) (hrest.made claim)

theorem single (store : Store) (base : String) :
    Apart store.usedNames [⟨base, (store.claim base).1⟩] where
  distinct := List.nodup_singleton _
  free claim hclaim := by
    rw [List.mem_singleton.mp hclaim]
    exact Name.fresh_not_mem "" (Name.pascal base) store.usedNames
  made claim hclaim := ⟨store.usedNames, by rw [List.mem_singleton.mp hclaim]; rfl⟩

theorem isIdentifier (h : Apart taken claims) (hclaim : claim ∈ claims) :
    Name.isIdentifier claim.name = true := by
  obtain ⟨used, hname⟩ := h.made claim hclaim
  rw [hname]
  exact Name.isIdentifier_fresh (by decide) (Name.isIdentifier_pascal claim.base) used

theorem pascal_name (h : Apart taken claims) (hclaim : claim ∈ claims)
    (hascii : claim.base.toList.all Text.isAscii = true) : Name.pascal claim.name = claim.name := by
  obtain ⟨used, hname⟩ := h.made claim hclaim
  rw [hname]
  exact Name.pascal_fresh hascii used

end Claim.Apart

/-- The names that a run claims are apart from those used before it. -/
theorem LowerM.Makes.apart {α : Type} {step : LowerM α} {setting : Setting} {store : Store}
    {claims : List Claim} (h : step.Makes setting store claims) : Claim.Apart store.usedNames claims := by
  induction h with
  | done result => exact .nil _
  | reading _ ih => exact ih
  | claiming _ ih => exact .append (.single _ _) ih
  | changing hnames _ ih => exact hnames ▸ ih
  | within h _ ih ihrest =>
    rw [h.usedNames] at ihrest
    exact ih.append ihrest

/-! ## Histories -/

namespace Context

/-- A context that was fresh once and was never reset, and the claims made since: by calls, whether they
succeed or fail, and by a caller. A caller may go elsewhere and change the store as well, but for the
used names. -/
inductive History (document : Document) (options : Options) : Context → List Claim → Prop
  | fresh : History document options (.fresh document options) []
  | call {context : Context} {claims made : List Claim} (h : History document options context claims)
    (call : Call) (hmakes : call.step.Makes context.setting context.store made) :
    History document options (context.run call.step).2 (claims ++ made)
  | claim {context : Context} {claims : List Claim} (h : History document options context claims)
    (base : String) : History document options (context.claimName base).2
      (claims ++ [⟨base, (context.claimName base).1⟩])
  | other {context : Context} {claims : List Claim} (h : History document options context claims)
    (scope : Scope) (change : Store → Store)
    (hnames : (change context.store).usedNames = context.store.usedNames) :
    History document options { context with scope, store := change context.store } claims

variable {document : Document} {options : Options} {context : Context} {claims : List Claim}

/-- The used names are the reserved ones followed by the claimed ones, and these are apart. -/
theorem History.usedNames (h : History document options context claims) :
    context.store.usedNames = document.reservedNames ++ claims.map Claim.name ∧
      Claim.Apart document.reservedNames claims := by
  induction h with
  | fresh => exact ⟨(List.append_nil _).symm, .nil _⟩
  | call _ call hmakes ih =>
    have hapart := hmakes.apart
    rw [ih.1] at hapart
    refine ⟨?_, ih.2.append hapart⟩
    rw [run_eq, hmakes.usedNames, ih.1, List.map_append, List.append_assoc]
  | @claim context _ _ base ih =>
    have hapart := Claim.Apart.single context.store base
    rw [ih.1] at hapart
    refine ⟨?_, ih.2.append hapart⟩
    rw [List.map_append, ← List.append_assoc, ← ih.1]
    rfl
  | other _ _ _ hnames ih => exact ⟨hnames.trans ih.1, ih.2⟩

theorem makes_call (context : Context) (call : Call) :
    ∃ made, call.step.Makes context.setting context.store made := by
  have hcall : ∃ demands, Claimables context.document context.options context.scope.visited
      context.scope.depth call.step demands := Claimables.call call
  obtain ⟨_, hcall⟩ := hcall
  exact hcall context.scope.path context.store

/-- The names that a context claims while it is not reset are pairwise distinct identifiers, none of them the
type name of a named schema or an alias reserved for a reference. A name of which the base is ASCII is its
own type name. Every call claims what it adds to the used names, from any context. -/
theorem claimed_names (h : History document options context claims) :
    (claims.map Claim.name).Nodup ∧
    (∀ claim ∈ claims,
      (∀ entry ∈ document.named, claim.name ≠ Name.pascal entry.name) ∧
      (∀ reference, document.alias? reference ≠ some claim.name) ∧
      Name.isIdentifier claim.name = true ∧
      (claim.base.toList.all Text.isAscii = true → Name.pascal claim.name = claim.name)) ∧
    ∀ call : Call, ∃ made, call.step.Makes context.setting context.store made ∧
      History document options (context.run call.step).2 (claims ++ made) ∧
      (context.run call.step).2.store.usedNames = context.store.usedNames ++ made.map Claim.name := by
  obtain ⟨-, hapart⟩ := h.usedNames
  refine ⟨hapart.distinct, fun claim hclaim => ⟨fun entry hentry heq => ?_, fun reference heq => ?_,
    hapart.isIdentifier hclaim, hapart.pascal_name hclaim⟩, fun call => ?_⟩
  · refine hapart.free claim hclaim (List.mem_append_left _ ?_)
    rw [heq]
    exact List.mem_map_of_mem hentry
  · exact hapart.free claim hclaim (Document.alias_mem_reservedNames heq)
  · obtain ⟨made, hmade⟩ := context.makes_call call
    refine ⟨made, hmade, h.call call hmade, ?_⟩
    rw [run_eq]
    exact hmade.usedNames

/-- A union whose second member refers to nothing: it does not lower. -/
def danglingUnion : Json :=
  .obj [("$defs", .obj [("A", .obj [("anyOf", .arr [
    .obj [("type", .str "object"), ("properties", .obj [("x", .obj [("type", .str "string")])])],
    .obj [("$ref", .str "#/$defs/B")]])])])]

/-- Each of two attempts at the union claims a name for the first member, which stays used; then a caller
claims the same base, and one that is a type name. -/
theorem claimed_names_of_danglingUnion : ∃ document context claims,
    Document.ofJson danglingUnion = .ok document ∧
    History document { inlineUnions := false } context claims ∧
    claims.map Claim.name = ["AMember1", "AMember12", "AMember13", "A2"] ∧
    (claims.map Claim.name).Nodup ∧
    (∀ entry ∈ document.named, "A2" ≠ Name.pascal entry.name) ∧ Name.pascal "A2" = "A2" := by
  have hread : ((Document.ofJson danglingUnion).toOption.any fun document =>
      document.named.any fun entry =>
        let first := (Context.fresh document { inlineUnions := false }).run (Lowering.lowerNamed entry)
        let second := first.2.run (Lowering.lowerNamed entry)
        let last := ((second.2.claimName "AMember1").2.claimName "A").2
        !first.1.isOk && !second.1.isOk && document.reservedNames == ["A", "B"] &&
          last.store.usedNames == ["A", "B", "AMember1", "AMember12", "AMember13", "A2"]) = true := by
    decide +kernel
  obtain ⟨document, hdocument, hread⟩ := Decode.exists_ok_of_any hread
  obtain ⟨entry, -, hread⟩ := List.any_eq_true.mp hread
  simp only [Bool.and_eq_true, beq_iff_eq] at hread
  obtain ⟨⟨-, hreserved⟩, hused⟩ := hread
  have hfresh : History document { inlineUnions := false } (.fresh document { inlineUnions := false }) [] :=
    .fresh
  obtain ⟨first, -, hfirst, -⟩ := (claimed_names hfresh).2.2 (.lowerNamed entry)
  obtain ⟨second, -, hsecond, -⟩ := (claimed_names hfirst).2.2 (.lowerNamed entry)
  have hlast := (hsecond.claim "AMember1").claim "A"
  have hall : ["A", "B"] ++ ["AMember1", "AMember12", "AMember13", "A2"] = document.reservedNames ++ _ :=
    hused.symm.trans hlast.usedNames.1
  rw [hreserved] at hall
  have hnames := (List.append_cancel_left hall).symm
  obtain ⟨hdistinct, hclaims, -⟩ := claimed_names hlast
  obtain ⟨hnamed, -, -, hsettled⟩ := hclaims _ (List.mem_append_right _ List.mem_cons_self)
  have hname := congrArg List.getLast? hnames
  rw [List.map_append, List.map_singleton, List.getLast?_concat] at hname
  rw [Option.some.inj hname] at hnamed hsettled
  have hascii : "A".toList.all Text.isAscii = true := by decide
  exact ⟨document, _, _, hdocument, hlast, hnames, hdistinct, hnamed, hsettled hascii⟩

end Context

end SchemaTypings
