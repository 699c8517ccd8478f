import SchemaTypings.Lowering.Named

/-!
# Running steps

What a run of each basic step gives, and what a run of a composed step gives from the runs of its parts.
A composed step ends with the first failure, and keeps the store that it left. Steps obey the laws of a
monad as they are, not only when they are run.
-/

namespace SchemaTypings

/-- Where a step is run: on some way, with references being resolved and levels above it. -/
def Setting.within (document : Document) (options : Options) (path visited : List String)
    (depth : Nat) : Setting :=
  ⟨document, options, ⟨path, visited, depth⟩⟩

namespace LowerM

variable {α β γ : Type} {setting : Setting} {store after : Store} {value : α} {error : LoweringError}

/-! ## Laws -/

theorem andThen_done (step : LowerM α) : step.andThen done = step := by
  induction step with
  | done result => rfl
  | reading next ih => exact congrArg reading (funext ih)
  | changing change next ih => exact congrArg (changing change) (funext ih)
  | within frame step next _ ih => exact congrArg (within frame step) (funext ih)

theorem andThen_assoc (step : LowerM α) (next : Except LoweringError α → LowerM β)
    (last : Except LoweringError β → LowerM γ) :
    (step.andThen next).andThen last = step.andThen fun result => (next result).andThen last := by
  induction step with
  | done result => rfl
  | reading rest ih => exact congrArg reading (funext fun setting => ih setting next)
  | changing change rest ih => exact congrArg (changing change) (funext fun value => ih value next)
  | within frame step rest _ ih =>
    exact congrArg (within frame step) (funext fun result => ih result next)

theorem map_id (step : LowerM α) : id <$> step = step := by
  refine Eq.trans (congrArg step.andThen (funext fun result => ?_)) (andThen_done step)
  cases result <;> rfl

theorem bind_assoc (step : LowerM α) (next : α → LowerM β) (last : β → LowerM γ) :
    (step >>= next) >>= last = step >>= fun value => next value >>= last := by
  refine (andThen_assoc step _ _).trans (congrArg step.andThen (funext fun result => ?_))
  cases result <;> rfl

instance : LawfulMonad LowerM :=
  LawfulMonad.mk' LowerM map_id (fun _ _ => rfl) bind_assoc

/-! ## Sequences -/

@[simp]
theorem runWith_pure (value : α) (setting : Setting) (store : Store) :
    (pure value : LowerM α).runWith setting store = (.ok value, store) := rfl

@[simp]
theorem runWith_throw (error : LoweringError) (setting : Setting) (store : Store) :
    (throw error : LowerM α).runWith setting store = (.error error, store) := rfl

theorem runWith_andThen (step : LowerM α) (next : Except LoweringError α → LowerM β)
    (setting : Setting) (store : Store) :
    (step.andThen next).runWith setting store =
      (next (step.runWith setting store).1).runWith setting (step.runWith setting store).2 := by
  induction step generalizing store with
  | done result => rfl
  | reading rest ih => exact ih setting next store
  | changing change rest ih => exact ih (change store).1 next (change store).2
  | within frame step rest _ ih => exact ih _ next _

theorem runWith_bind (step : LowerM α) (next : α → LowerM β) (setting : Setting) (store : Store) :
    (step >>= next).runWith setting store = match step.runWith setting store with
      | (.ok value, after) => (next value).runWith setting after
      | (.error error, after) => (.error error, after) := by
  refine (runWith_andThen step _ setting store).trans ?_
  rcases step.runWith setting store with ⟨_ | _, _⟩ <;> rfl

/-- A composed step succeeds if both parts do, one after the other. -/
theorem runWith_bind_eq_ok {step : LowerM α} {next : α → LowerM β} {result : β} :
    (step >>= next).runWith setting store = (.ok result, after) ↔ ∃ value between,
      step.runWith setting store = (.ok value, between) ∧
        (next value).runWith setting between = (.ok result, after) := by
  rw [runWith_bind]
  rcases step.runWith setting store with ⟨_ | value, between⟩
  · simp
  · refine ⟨fun h => ⟨value, between, rfl, h⟩, ?_⟩
    rintro ⟨_, _, ⟨⟩, h⟩
    exact h

theorem runWith_map (f : α → β) (step : LowerM α) (setting : Setting) (store : Store) :
    (f <$> step).runWith setting store =
      ((step.runWith setting store).1.map f, (step.runWith setting store).2) := by
  rw [← bind_pure_comp, runWith_bind]
  rcases step.runWith setting store with ⟨_ | _, _⟩ <;> rfl

/-! ## Basic steps -/

@[simp]
theorem runWith_get (setting : Setting) (store : Store) :
    (get : LowerM Store).runWith setting store = (.ok store, store) := rfl

@[simp]
theorem runWith_modify (change : Store → Store) (setting : Setting) (store : Store) :
    (modify change : LowerM PUnit).runWith setting store = (.ok ⟨⟩, change store) := rfl

@[simp]
theorem runWith_document (setting : Setting) (store : Store) :
    document.runWith setting store = (.ok setting.document, store) := rfl

@[simp]
theorem runWith_options (setting : Setting) (store : Store) :
    options.runWith setting store = (.ok setting.options, store) := rfl

@[simp]
theorem runWith_scope (setting : Setting) (store : Store) :
    scope.runWith setting store = (.ok setting.scope, store) := rfl

@[simp]
theorem runWith_recorded? (reference : String) (setting : Setting) (store : Store) :
    (recorded? reference).runWith setting store = (.ok (store.types.lookup reference), store) := rfl

@[simp]
theorem runWith_claimName (base : String) (setting : Setting) (store : Store) :
    (claimName base).runWith setting store = (.ok (store.claim base).1, (store.claim base).2) := rfl

@[simp]
theorem runWith_warn (message : String) (setting : Setting) (store : Store) :
    (warn message).runWith setting store =
      (.ok (), { store with warnings := store.warnings ++ [message] }) := rfl

/-! ## Steps within frames -/

@[simp]
theorem runWith_inFrame (frame : Frame) (step : LowerM α) (setting : Setting) (store : Store) :
    (inFrame frame step).runWith setting store =
      step.runWith { setting with scope := frame.enter setting.scope } store := rfl

@[simp]
theorem runWith_withSegment (segment : String) (step : LowerM α) (setting : Setting)
    (store : Store) :
    (withSegment segment step).runWith setting store =
      step.runWith { setting with scope := setting.scope.push segment } store := rfl

@[simp]
theorem runWith_atDeclarationRoot (step : LowerM α) (setting : Setting) (store : Store) :
    (atDeclarationRoot step).runWith setting store =
      step.runWith { setting with scope := { setting.scope with depth := 0 } } store := rfl

@[simp]
theorem runWith_withVisited (reference : String) (step : LowerM α) (setting : Setting)
    (store : Store) :
    (withVisited reference step).runWith setting store =
      step.runWith { setting with scope := setting.scope.visit reference } store := rfl

theorem runWith_descend (segment : String) (step : LowerM α) (setting : Setting) (store : Store) :
    (descend segment step).runWith setting store =
      if setting.options.maxDepth < setting.scope.depth + 1 then
        (.error (.tooDeep (setting.scope.pathTextTo segment) (setting.scope.depth + 1)
          setting.options.maxDepth), store)
      else step.runWith { setting with
        scope := { setting.scope.push segment with depth := setting.scope.depth + 1 } } store := by
  simp only [descend, runWith_bind, runWith_scope, runWith_options]
  split <;> rfl

/-! ## Steps at a place -/

section

variable {document : Document} {options : Options} {path visited : List String} {depth : Nat}

theorem runWith_descend_of_lt (segment : String) (step : LowerM α)
    (h : options.maxDepth < depth + 1) :
    (descend segment step).runWith (.within document options path visited depth) store =
      (.error (.tooDeep (Scope.pathTextTo ⟨path, visited, depth⟩ segment) (depth + 1)
        options.maxDepth), store) := by
  rw [runWith_descend]
  exact if_pos h

theorem runWith_descend_of_not_lt (segment : String) (step : LowerM α)
    (h : ¬options.maxDepth < depth + 1) :
    (descend segment step).runWith (.within document options path visited depth) store =
      step.runWith (.within document options (path ++ [segment]) visited (depth + 1)) store := by
  rw [runWith_descend]
  exact if_neg h

/-- A step one level down that succeeds is not too deep, and succeeds there. -/
theorem runWith_descend_eq_ok {segment : String} {step : LowerM α} {value : α} {after : Store} :
    (descend segment step).runWith (.within document options path visited depth) store =
        (.ok value, after) ↔
      ¬options.maxDepth < depth + 1 ∧
        step.runWith (.within document options (path ++ [segment]) visited (depth + 1)) store =
          (.ok value, after) := by
  by_cases hdeep : options.maxDepth < depth + 1
  · rw [runWith_descend_of_lt segment step hdeep]
    exact ⟨nofun, fun h => absurd hdeep h.1⟩
  · rw [runWith_descend_of_not_lt segment step hdeep]
    exact (and_iff_right hdeep).symm

theorem runWith_withVisited_of_mem {reference : String} (step : LowerM α) (h : reference ∈ visited) :
    (withVisited reference step).runWith (.within document options path visited depth) store =
      step.runWith (.within document options path visited depth) store := by
  rw [runWith_withVisited]
  simp [Setting.within, Scope.visit, h]

theorem runWith_withVisited_of_not_mem {reference : String} (step : LowerM α)
    (h : reference ∉ visited) :
    (withVisited reference step).runWith (.within document options path visited depth) store =
      step.runWith (.within document options path (visited ++ [reference]) depth) store := by
  rw [runWith_withVisited]
  simp [Setting.within, Scope.visit, h]

end

/-! ## Failures and dependencies -/

@[simp]
theorem runWith_attempt (step : LowerM α) (setting : Setting) (store : Store) :
    (attempt step).runWith setting store =
      (.ok (step.runWith setting store).1, (step.runWith setting store).2) :=
  runWith_andThen step _ setting store

theorem runWith_scopedDependencies (merge : List String → List String → List String)
    (step : LowerM α) (setting : Setting) (store : Store) :
    (scopedDependencies merge step).runWith setting store =
      let (result, after) := step.runWith setting { store with dependencies := [] }
      (result.map fun value => (value, after.dependencies),
        { after with dependencies := merge store.dependencies after.dependencies }) := by
  simp only [scopedDependencies, runWith_bind, runWith_get, runWith_modify, runWith_attempt]
  rcases step.runWith setting { store with dependencies := [] } with ⟨_ | _, _⟩ <;> rfl

theorem runWith_scopedDependencies_eq_ok {merge : List String → List String → List String}
    {step : LowerM α} {setting : Setting} {store after : Store} {value : α} {collected : List String} :
    (scopedDependencies merge step).runWith setting store = (.ok (value, collected), after) ↔
      ∃ inner, step.runWith setting { store with dependencies := [] } = (.ok value, inner) ∧
        inner.dependencies = collected ∧
          { inner with dependencies := merge store.dependencies inner.dependencies } = after := by
  rw [runWith_scopedDependencies]
  rcases step.runWith setting { store with dependencies := [] } with ⟨_ | given, inner⟩
  · exact ⟨nofun, nofun⟩
  · constructor
    · rintro ⟨⟩
      exact ⟨inner, rfl, rfl, rfl⟩
    · rintro ⟨_, ⟨⟩, rfl, rfl⟩
      rfl

end LowerM

/-! ## Named schemas -/

theorem Operation.kind_of_select_union {schema : Schema} (h : select schema = .union) :
    ∃ members, schema.kind = .oneOf members ∨ schema.kind = .anyOf members := by
  obtain ⟨kind, info⟩ := schema
  cases kind with
  | oneOf members => exact ⟨members, Or.inl rfl⟩
  | anyOf members => exact ⟨members, Or.inr rfl⟩
  | object shape | array items =>
    simp only [select, ofKind] at h
    split at h <;> cases h
  | _ => cases h

open LowerM in
/-- The type name of a named schema is recorded if it lowers, and forgotten if it does not. -/
theorem Lowering.runWith_lowerNamed (entry : NamedSchema) (setting : Setting) (store : Store) :
    (lowerNamed entry).runWith setting store =
      match (withVisited entry.pointer (declare (Name.pascal entry.name) entry.schema)).runWith
        setting store with
      | (.ok declarations, after) =>
        (.ok declarations, after.record entry.pointer (Name.pascal entry.name))
      | (.error error, after) => (.error error, after.forget entry.pointer) := by
  simp only [lowerNamed, runWith_bind, runWith_attempt]
  rcases (withVisited _ _).runWith setting store with ⟨_ | _, _⟩ <;> rfl

open LowerM in
/-- A named schema lowers to what is declared for it while its reference is being resolved. -/
theorem Lowering.runWith_lowerNamed_eq_ok {entry : NamedSchema} {setting : Setting} {store after : Store}
    {declarations : List Typing.Declaration} :
    (lowerNamed entry).runWith setting store = (.ok declarations, after) ↔
      ∃ inner, (declare (Name.pascal entry.name) entry.schema).runWith
          { setting with scope := setting.scope.visit entry.pointer } store = (.ok declarations, inner) ∧
        inner.record entry.pointer (Name.pascal entry.name) = after := by
  rw [runWith_lowerNamed, runWith_withVisited]
  rcases (declare _ _).runWith _ store with ⟨_ | given, inner⟩
  · exact ⟨nofun, nofun⟩
  · constructor
    · rintro ⟨⟩
      exact ⟨inner, rfl, rfl⟩
    · rintro ⟨_, ⟨⟩, rfl⟩
      rfl

end SchemaTypings
