import SchemaTypings.Lowering.Error
import SchemaTypings.Lowering.Memo
import SchemaTypings.Options.Basic
import SchemaTypings.Schema.Document

/-!
# The state of lowering

Lowering reads a scope and writes a store. The scope says where lowering stands: the names on the way,
the references being resolved, and how deep compositions are nested. A part of a step may stand in a
frame, which changes the scope for that part only: every exit, by a result or by a failure, leaves the
frame again. The store collects what lowering finds out, and keeps it after a failure.
-/

namespace SchemaTypings

open Typing (Declaration)

/-- Where lowering stands. -/
structure Scope where
  path : List String := []
  visited : List String := []
  depth : Nat := 0
  deriving DecidableEq, Repr

namespace Scope

def pathText (scope : Scope) : String :=
  String.intercalate "." scope.path

/-- The way to a segment as text. -/
def pathTextTo (scope : Scope) (segment : String) : String :=
  if scope.pathText.isEmpty then segment else s!"{scope.pathText}.{segment}"

/-- The scope one name further. -/
def push (segment : String) (scope : Scope) : Scope :=
  { scope with path := scope.path ++ [segment] }

/-- The scope in which a reference is being resolved. -/
def visit (reference : String) (scope : Scope) : Scope :=
  if scope.visited.contains reference then scope
  else { scope with visited := scope.visited ++ [reference] }

end Scope

/-- What a part of a step stands in. -/
inductive Frame where
  /-- One name further on the way. -/
  | segment (name : String)
  /-- One name further, and one level of composition further down. -/
  | level (name : String)
  /-- The root of a declaration of its own, where compositions are counted afresh. -/
  | root
  /-- The resolution of a reference. -/
  | visiting (reference : String)
  deriving DecidableEq, Repr

namespace Frame

/-- The scope within the frame. -/
def enter : Frame → Scope → Scope
  | segment name, scope => scope.push name
  | level name, scope => { scope.push name with depth := scope.depth + 1 }
  | root, scope => { scope with depth := 0 }
  | visiting reference, scope => scope.visit reference

/-- The scope after the frame, from the one before it and the one at its end. -/
def leave (before : Scope) : Frame → Scope → Scope
  | segment _, scope => { scope with path := scope.path.dropLast }
  | level _, scope => { scope with path := scope.path.dropLast, depth := scope.depth - 1 }
  | root, scope => { scope with depth := before.depth }
  | visiting reference, scope =>
    if before.visited.contains reference then scope
    else { scope with visited := scope.visited.erase reference }

end Frame

/-- What lowering has found out. -/
structure Store where
  types : List (String × String) := []
  dependencies : List String := []
  usedNames : List String := []
  declarations : List Declaration := []
  warnings : List String := []
  deriving DecidableEq, Repr

namespace Store

def fresh (document : Document) : Store :=
  { usedNames := document.reservedNames }

def forget (reference : String) (store : Store) : Store :=
  { store with types := store.types.filter (·.1 != reference) }

/-- The store with a type name for a reference, unless it has one. -/
def record (reference name : String) (store : Store) : Store :=
  { store with types := Memo.addType store.types (reference, name) }

def depend (name : String) (store : Store) : Store :=
  { store with dependencies := addName store.dependencies name }

/-- A fresh name made of the base, and the store in which it is taken. -/
def claim (base : String) (store : Store) : String × Store :=
  let name := Name.fresh "" store.usedNames (Name.pascal base)
  (name, { store with usedNames := store.usedNames ++ [name] })

/-- The store with one more declaration, unless one has its name. -/
def declare (declaration : Declaration) (store : Store) : Store :=
  { store with declarations := Memo.addDeclaration store.declarations declaration }

def memo (store : Store) : Memo :=
  ⟨store.types, store.declarations, store.warnings⟩

end Store

/-- What lowering reads: the document, the options, and where it stands. -/
structure Setting where
  document : Document
  options : Options
  scope : Scope := {}

/-- A step of lowering. It ends with a result or a failure; or it reads the setting, changes the store,
or takes a step within a frame, and goes on with what came of that. -/
inductive LowerM : Type → Type 1 where
  | done {α : Type} (result : Except LoweringError α) : LowerM α
  | reading {α : Type} (next : Setting → LowerM α) : LowerM α
  | changing {α β : Type} (change : Store → β × Store) (next : β → LowerM α) : LowerM α
  | within {α β : Type} (frame : Frame) (step : LowerM β)
    (next : Except LoweringError β → LowerM α) : LowerM α

namespace LowerM

variable {α β : Type}

/-- A step, and the next one with what came of it. -/
def andThen : {α : Type} → LowerM α → (Except LoweringError α → LowerM β) → LowerM β
  | _, done result, next => next result
  | _, reading rest, next => reading fun setting => (rest setting).andThen next
  | _, changing change rest, next => changing change fun value => (rest value).andThen next
  | _, within frame step rest, next => within frame step fun result => (rest result).andThen next

instance : Monad LowerM where
  pure value := done (.ok value)
  bind step next := step.andThen fun
    | .ok value => next value
    | .error error => done (.error error)

instance : MonadExceptOf LoweringError LowerM where
  throw error := done (.error error)
  tryCatch step handle := step.andThen fun
    | .ok value => done (.ok value)
    | .error error => handle error

instance : MonadStateOf Store LowerM where
  get := changing (fun store => (store, store)) pure
  set store := changing (fun _ => (⟨⟩, store)) pure
  modifyGet change := changing change pure

/-- The result of a step, and the store after it. -/
def runWith : {α : Type} → LowerM α → Setting → Store → Except LoweringError α × Store
  | _, done result, _, store => (result, store)
  | _, reading next, setting, store => (next setting).runWith setting store
  | _, changing change next, setting, store =>
    (next (change store).1).runWith setting (change store).2
  | _, within frame step next, setting, store =>
    let inner := step.runWith { setting with scope := frame.enter setting.scope } store
    (next inner.1).runWith setting inner.2

def setting : LowerM Setting := reading pure

def document : LowerM Document := return (← setting).document

def options : LowerM Options := return (← setting).options

def scope : LowerM Scope := return (← setting).scope

/-- A step within a frame. -/
def inFrame (frame : Frame) (step : LowerM α) : LowerM α :=
  within frame step done

/-- A step one name further on the way. -/
def withSegment (segment : String) (step : LowerM α) : LowerM α :=
  inFrame (.segment segment) step

/-- A step one level of composition further down. It fails if that is deeper than the options allow. -/
def descend (segment : String) (step : LowerM α) : LowerM α := do
  let scope ← scope
  let maxDepth := (← options).maxDepth
  let depth := scope.depth + 1
  if depth > maxDepth then throw (.tooDeep (scope.pathTextTo segment) depth maxDepth)
  else inFrame (.level segment) step

/-- A step at the root of a declaration of its own. -/
def atDeclarationRoot (step : LowerM α) : LowerM α :=
  inFrame .root step

/-- A step while the reference is being resolved. -/
def withVisited (reference : String) (step : LowerM α) : LowerM α :=
  inFrame (.visiting reference) step

/-- A step with its failure as a result. -/
def attempt (step : LowerM α) : LowerM (Except LoweringError α) :=
  step.andThen fun result => done (.ok result)

/-- A step that starts without dependencies; `merge` makes those afterwards from those before and
those of the step, which are also returned. A failure is passed on. -/
def scopedDependencies (merge : List String → List String → List String) (step : LowerM α) :
    LowerM (α × List String) := do
  let outer := (← get).dependencies
  modify fun store => { store with dependencies := [] }
  let result ← attempt step
  let inner := (← get).dependencies
  modify fun store => { store with dependencies := merge outer inner }
  match result with
  | .ok value => return (value, inner)
  | .error error => throw error

/-- A step with the names it depends on, which count for what surrounds it as well. -/
def collectDependencies (step : LowerM α) : LowerM (α × List String) :=
  scopedDependencies (fun outer inner => inner.foldl addName outer) step

/-- A step whose dependencies do not count for what surrounds it. -/
def isolateDependencies (step : LowerM α) : LowerM α :=
  (·.1) <$> scopedDependencies (fun outer _ => outer) step

def recorded? (reference : String) : LowerM (Option String) :=
  return (← get).types.lookup reference

/-- A fresh type name made of the base. -/
def claimName (base : String) : LowerM String :=
  modifyGet (Store.claim base)

/-- A warning. -/
def warn (message : String) : LowerM Unit :=
  modify fun store => { store with warnings := store.warnings ++ [message] }

/-- What a policy makes of something empty: a failure, or a warning. -/
def degenerate (policy : DegeneratePolicy) (reason : String) : LowerM Unit := do
  match policy with
  | .error => throw (.degenerate (← scope).pathText reason)
  | .never => warn s!"{reason}; lowered to \x60never\x60"

end LowerM

end SchemaTypings
