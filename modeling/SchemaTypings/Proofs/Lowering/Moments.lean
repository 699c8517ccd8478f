import SchemaTypings.Lowering.Context
import SchemaTypings.Proofs.Lowering.Run

/-!
# Moments of a run

A run of a step goes through contexts, its moments: one before each change of the store, one on each side
of the edge of a frame, and one at the end. What holds at each of them, and of the end, is found along
the step as a weakest precondition (`LowerM.Through`), so that later proofs see neither the list of
moments nor the frames. A run itself enters and leaves the frames one by one; leaving undoes entering, so
that the scope after a run is the one before it (`Context.run_eq`).
-/

namespace SchemaTypings

/-- Leaving a frame undoes entering it. -/
theorem Frame.leave_enter (frame : Frame) (scope : Scope) :
    frame.leave scope (frame.enter scope) = scope := by
  cases frame with
  | segment name => simp [enter, leave, Scope.push]
  | level name => simp [enter, leave, Scope.push]
  | root => rfl
  | visiting reference =>
    by_cases h : scope.visited.contains reference = true
    · simp only [leave, enter, Scope.visit, h, if_true]
    · have hnot : reference ∉ scope.visited := by simpa using h
      have herase : (scope.visited ++ [reference]).erase reference = scope.visited := by
        rw [List.erase_append_right _ hnot, List.erase_cons_head, List.append_nil]
      simp only [leave, enter, Scope.visit, h, if_false, Bool.false_eq_true, herase]

namespace Context

variable {α β : Type}

/-- What an action in a frame leaves besides the store is left as it was before. -/
theorem inFrame_eq {frame : Frame} {action : Context → α × Context} {context : Context} {result : α}
    {store : Store} (h : action (context.updateScope frame.enter) =
      (result, { context.updateScope frame.enter with store })) :
    inFrame frame action context = (result, { context with store }) := by
  rw [inFrame, between, h]
  simp only [updateScope, frame.leave_enter]

/-- A run gives what the step gives in the setting of the context, and leaves the context in its place:
only the store is another one. -/
theorem run_eq (step : LowerM α) (context : Context) :
    context.run step = ((step.runWith context.setting context.store).1,
      { context with store := (step.runWith context.setting context.store).2 }) := by
  induction step generalizing context with
  | done result => rfl
  | reading next ih => exact ih context.setting context
  | changing change next ih => exact ih (change context.store).1 _
  | within frame step next ih ihnext =>
    have hleft := inFrame_eq (ih (context.updateScope frame.enter))
    rw [run, hleft]
    exact ihnext _ _

theorem run_inFrame (frame : Frame) (step : LowerM α) (context : Context) :
    inFrame frame (run step) context = (((context.updateScope frame.enter).run step).1,
      { context with store := ((context.updateScope frame.enter).run step).2.store }) := by
  apply inFrame_eq
  simp only [run_eq]

/-- The contexts that a run of a step goes through, from the first one to the last one. -/
def moments : {α : Type} → LowerM α → Context → List Context
  | _, .done _, context => [context]
  | _, .reading next, context => moments (next context.setting) context
  | _, .changing change next, context =>
    let (value, store) := change context.store
    context :: moments (next value) { context with store }
  | _, .within frame step next, context =>
    let (result, after) := inFrame frame (run step) context
    context :: (moments step (context.updateScope frame.enter) ++ moments (next result) after)

theorem run_mem_moments (step : LowerM α) (context : Context) :
    (context.run step).2 ∈ context.moments step := by
  induction step generalizing context with
  | done result => exact List.mem_singleton_self context
  | reading next ih => exact ih context.setting context
  | changing change next ih => exact List.mem_cons_of_mem _ (ih _ _)
  | within frame step next _ ih =>
    exact List.mem_cons_of_mem _ (List.mem_append_right _ (ih _ _))

/-- The moments within a frame lie between one before it is entered and those after it is left. -/
theorem mem_moments_within {frame : Frame} {step : LowerM β}
    {next : Except LoweringError β → LowerM α} {context moment : Context} :
    moment ∈ context.moments (.within frame step next) ↔ moment = context ∨
      moment ∈ (context.updateScope frame.enter).moments step ∨
      moment ∈ moments (next ((context.updateScope frame.enter).run step).1)
        { context with store := ((context.updateScope frame.enter).run step).2.store } := by
  have hafter := run_inFrame frame step context
  simp only [moments, List.mem_cons, List.mem_append, hafter]

/-- All moments of a run are over the same document and options. -/
theorem document_of_mem_moments {step : LowerM α} {context moment : Context}
    (h : moment ∈ context.moments step) :
    moment.document = context.document ∧ moment.options = context.options := by
  induction step generalizing context with
  | done result =>
    obtain rfl := List.mem_singleton.mp h
    exact ⟨rfl, rfl⟩
  | reading next ih => exact ih context.setting h
  | changing change next ih =>
    rcases List.mem_cons.mp h with rfl | h
    · exact ⟨rfl, rfl⟩
    · have hafter := ih _ h
      exact hafter
  | within frame step next ih ihnext =>
    rcases mem_moments_within.mp h with rfl | h | h
    · exact ⟨rfl, rfl⟩
    · have hinside := ih h
      exact hinside
    · have hafter := ihnext _ h
      exact hafter

end Context

namespace LowerM

variable {α β : Type} {inv : Scope → Store → Prop} {setting : Setting} {store : Store}

/-- The invariant holds at every moment of the step, and the postcondition of what it gives and of the
store after it. -/
def Through (inv : Scope → Store → Prop) : {α : Type} → LowerM α → Setting → Store →
    (Except LoweringError α → Store → Prop) → Prop
  | _, done result, setting, store, post => inv setting.scope store ∧ post result store
  | _, reading next, setting, store, post => (next setting).Through inv setting store post
  | _, changing change next, setting, store, post =>
    inv setting.scope store ∧ (next (change store).1).Through inv setting (change store).2 post
  | _, within frame step next, setting, store, post =>
    inv setting.scope store ∧
      step.Through inv { setting with scope := frame.enter setting.scope } store fun result after =>
        (next result).Through inv setting after post

/-- What holds through a step holds at the moments of its run, and at the end. -/
theorem Through.run {step : LowerM α} (context : Context)
    {post : Except LoweringError α → Store → Prop}
    (h : step.Through inv context.setting context.store post) :
    (∀ moment ∈ context.moments step, inv moment.scope moment.store) ∧
      post (context.run step).1 (context.run step).2.store := by
  induction step generalizing context with
  | done result =>
    refine ⟨fun moment hmoment => ?_, h.2⟩
    obtain rfl := List.mem_singleton.mp hmoment
    exact h.1
  | reading next ih => exact ih context.setting context h
  | changing change next ih =>
    obtain ⟨hrest, hpost⟩ := ih _ { context with store := (change context.store).2 } h.2
    refine ⟨fun moment hmoment => ?_, hpost⟩
    rcases List.mem_cons.mp hmoment with rfl | hmoment
    · exact h.1
    · exact hrest moment hmoment
  | within frame step next ih ihnext =>
    obtain ⟨hinside, hafter⟩ := ih (context.updateScope frame.enter) h.2
    have hrest := ihnext _
      { context with store := ((context.updateScope frame.enter).run step).2.store } hafter
    have hrun : context.run (.within frame step next) =
        Context.run (next ((context.updateScope frame.enter).run step).1)
          { context with store := ((context.updateScope frame.enter).run step).2.store } := by
      rw [Context.run, Context.run_inFrame]
    refine ⟨fun moment hmoment => ?_, ?_⟩
    · rcases Context.mem_moments_within.mp hmoment with rfl | hmoment | hmoment
      · exact h.1
      · exact hinside moment hmoment
      · exact hrest.1 moment hmoment
    · rw [hrun]
      exact hrest.2

namespace Through

variable {step : LowerM α} {post weaker : Except LoweringError α → Store → Prop}

theorem start (h : step.Through inv setting store post) : inv setting.scope store := by
  induction step generalizing setting store with
  | done result => exact h.1
  | reading next ih => exact ih _ h
  | changing change next => exact h.1
  | within frame step next => exact h.1

theorem mono (h : step.Through inv setting store post)
    (himp : ∀ result after, inv setting.scope after → post result after → weaker result after) :
    step.Through inv setting store weaker := by
  induction step generalizing setting store with
  | done result => exact ⟨h.1, himp result store h.1 h.2⟩
  | reading next ih => exact ih _ h himp
  | changing change next ih => exact ⟨h.1, ih _ h.2 himp⟩
  | within frame step next ih ihnext =>
    exact ⟨h.1, ih h.2 fun result after _ hrest => ihnext result hrest himp⟩

/-- What follows from the invariant holds at every moment as well. -/
theorem weaken {inv' : Scope → Store → Prop} (h : step.Through inv setting store post)
    (himp : ∀ scope store, inv scope store → inv' scope store) :
    step.Through inv' setting store post := by
  induction step generalizing setting store with
  | done result => exact ⟨himp _ _ h.1, h.2⟩
  | reading next ih => exact ih _ h
  | changing change next ih => exact ⟨himp _ _ h.1, ih _ h.2⟩
  | within frame step next ih ihnext =>
    refine ⟨himp _ _ h.1, ih (h.2.mono fun result after _ hrest => ?_)⟩
    exact ihnext result hrest

/-- What holds at the end may be told of what the step gives. -/
theorem runs (h : step.Through inv setting store post) :
    step.Through inv setting store fun result after =>
      step.runWith setting store = (result, after) ∧ post result after := by
  induction step generalizing setting store with
  | done result => exact ⟨h.1, rfl, h.2⟩
  | reading next ih => exact ih _ h
  | changing change next ih => exact ⟨h.1, ih _ h.2⟩
  | within frame step next ih ihnext =>
    refine ⟨h.1, (ih h.2).mono fun result after _ hrest => ?_⟩
    refine (ihnext result hrest.2).mono fun last final _ hlast => ⟨?_, hlast.2⟩
    rw [runWith, hrest.1]
    exact hlast.1

theorem andThen {next : Except LoweringError α → LowerM β} {post : Except LoweringError β → Store → Prop}
    (h : step.Through inv setting store fun result after =>
      (next result).Through inv setting after post) :
    (step.andThen next).Through inv setting store post := by
  induction step generalizing store with
  | done result => exact h.2
  | reading rest ih => exact ih _ h
  | changing change rest ih => exact ⟨h.1, ih _ h.2⟩
  | within frame step rest _ ih => exact ⟨h.1, h.2.mono fun result after _ hrest => ih result hrest⟩

/-! ## Composed steps -/

theorem pure {value : α} (hinv : inv setting.scope store) (hpost : post (.ok value) store) :
    (Pure.pure value : LowerM α).Through inv setting store post :=
  ⟨hinv, hpost⟩

theorem throw {error : LoweringError} (hinv : inv setting.scope store)
    (hpost : post (.error error) store) :
    (MonadExcept.throw error : LowerM α).Through inv setting store post :=
  ⟨hinv, hpost⟩

theorem get {post : Except LoweringError Store → Store → Prop} (hinv : inv setting.scope store)
    (hpost : post (.ok store) store) :
    (MonadState.get : LowerM Store).Through inv setting store post :=
  ⟨hinv, hinv, hpost⟩

theorem modify {change : Store → Store} {post : Except LoweringError PUnit → Store → Prop}
    (hinv : inv setting.scope store) (hchanged : inv setting.scope (change store))
    (hpost : post (.ok ⟨⟩) (change store)) :
    (modify change : LowerM PUnit).Through inv setting store post :=
  ⟨hinv, hchanged, hpost⟩

theorem bind {next : α → LowerM β} {post : Except LoweringError β → Store → Prop}
    (h : step.Through inv setting store fun result after => match result with
      | .ok value => (next value).Through inv setting after post
      | .error error => post (.error error) after) :
    (step >>= next).Through inv setting store post := by
  refine andThen (h.mono fun result after hinv hrest => ?_)
  cases result with
  | ok value => exact hrest
  | error error => exact ⟨hinv, hrest⟩

/-! What is read is known, so the next step is taken at once. -/

theorem readDocument {next : Document → LowerM α}
    (h : (next setting.document).Through inv setting store post) :
    (LowerM.document >>= next).Through inv setting store post :=
  h

theorem readOptions {next : Options → LowerM α}
    (h : (next setting.options).Through inv setting store post) :
    (LowerM.options >>= next).Through inv setting store post :=
  h

theorem readScope {next : Scope → LowerM α}
    (h : (next setting.scope).Through inv setting store post) :
    (LowerM.scope >>= next).Through inv setting store post :=
  h

theorem readRecorded {reference : String} {next : Option String → LowerM α}
    (hinv : inv setting.scope store)
    (h : (next (store.types.lookup reference)).Through inv setting store post) :
    (LowerM.recorded? reference >>= next).Through inv setting store post :=
  ⟨hinv, h⟩

theorem claimName {base : String} {next : String → LowerM α} (hinv : inv setting.scope store)
    (h : (next (store.claim base).1).Through inv setting (store.claim base).2 post) :
    (LowerM.claimName base >>= next).Through inv setting store post :=
  ⟨hinv, h⟩

theorem map {f : α → β} {post : Except LoweringError β → Store → Prop}
    (h : step.Through inv setting store fun result after => post (result.map f) after) :
    (f <$> step).Through inv setting store post := by
  rw [← bind_pure_comp]
  refine bind (h.mono fun result after hinv hpost => ?_)
  cases result with
  | ok value => exact ⟨hinv, hpost⟩
  | error error => exact hpost

theorem attempt {post : Except LoweringError (Except LoweringError α) → Store → Prop}
    (h : step.Through inv setting store fun result after => post (.ok result) after) :
    (attempt step).Through inv setting store post :=
  andThen (h.mono fun _ _ hinv hpost => ⟨hinv, hpost⟩)

theorem inFrame {frame : Frame} (hinv : inv setting.scope store)
    (h : step.Through inv { setting with scope := frame.enter setting.scope } store
      fun result after => inv setting.scope after ∧ post result after) :
    (inFrame frame step).Through inv setting store post :=
  ⟨hinv, h⟩

theorem scopedDependencies {merge : List String → List String → List String}
    {post : Except LoweringError (α × List String) → Store → Prop}
    (hinv : inv setting.scope store)
    (h : step.Through inv setting { store with dependencies := [] } fun result after =>
      let merged := { after with dependencies := merge store.dependencies after.dependencies }
      inv setting.scope merged ∧
        post (result.map fun value => (value, after.dependencies)) merged) :
    (scopedDependencies merge step).Through inv setting store post := by
  refine bind (get hinv (bind (modify hinv h.start ?_)))
  refine bind (attempt (h.mono fun result after hafter hmerged => ?_))
  refine bind (get hafter (bind (modify hafter hmerged.1 ?_)))
  cases result with
  | ok value => exact hmerged
  | error error => exact hmerged

/-- A named schema is recorded after it is declared, or forgotten if that fails. -/
theorem lowerNamed {entry : NamedSchema}
    {post : Except LoweringError (List Typing.Declaration) → Store → Prop}
    (h : (withVisited entry.pointer (Lowering.declare (Name.pascal entry.name) entry.schema)).Through inv
      setting store fun result inner =>
        let after := match result with
          | .ok _ => inner.record entry.pointer (Name.pascal entry.name)
          | .error _ => inner.forget entry.pointer
        inv setting.scope after ∧ post result after) :
    (Lowering.lowerNamed entry).Through inv setting store post := by
  refine bind (attempt (h.mono fun result inner hinner hafter => ?_))
  cases result with
  | ok declarations => exact bind (modify hinner hafter.1 (pure hafter.1 hafter.2))
  | error error => exact bind (modify hinner hafter.1 (throw hafter.1 hafter.2))

/-! ## Steps at a place -/

section

variable {document : Document} {options : Options} {path visited : List String} {depth : Nat}
  {reference : String}

theorem withVisited_of_mem (hmem : reference ∈ visited) (hinv : inv ⟨path, visited, depth⟩ store)
    (h : step.Through inv (.within document options path visited depth) store
      fun result after => inv ⟨path, visited, depth⟩ after ∧ post result after) :
    (withVisited reference step).Through inv (.within document options path visited depth) store
      post := by
  have henter : (Frame.visiting reference).enter ⟨path, visited, depth⟩ = ⟨path, visited, depth⟩ := by
    simp [Frame.enter, Scope.visit, hmem]
  refine Through.inFrame hinv ?_
  rw [Setting.within, henter]
  exact h

theorem withVisited_of_not_mem (hnew : reference ∉ visited)
    (hinv : inv ⟨path, visited, depth⟩ store)
    (h : step.Through inv (.within document options path (visited ++ [reference]) depth) store
      fun result after => inv ⟨path, visited, depth⟩ after ∧ post result after) :
    (withVisited reference step).Through inv (.within document options path visited depth) store
      post := by
  have henter : (Frame.visiting reference).enter ⟨path, visited, depth⟩ =
      ⟨path, visited ++ [reference], depth⟩ := by simp [Frame.enter, Scope.visit, hnew]
  refine Through.inFrame hinv ?_
  rw [Setting.within, henter]
  exact h

end

end Through

end LowerM

end SchemaTypings
