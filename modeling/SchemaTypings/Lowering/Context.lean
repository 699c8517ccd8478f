import SchemaTypings.Lowering.Report

/-!
# Contexts

A context is a place from which steps of lowering are run one after another: a scope and a store, over
a document and options. A run changes the scope on the way: it enters frames and leaves them again,
whether what stands in them succeeds or fails. A caller may also put a frame around actions of its own.
-/

namespace SchemaTypings

open Typing

/-- A place from which steps of lowering are run. -/
structure Context where
  document : Document
  options : Options
  scope : Scope := {}
  store : Store

namespace Context

variable {α : Type}

def fresh (document : Document) (options : Options) : Context :=
  { document, options, store := Store.fresh document }

/-- The context with nothing of what was found out, at the root. -/
def reset (context : Context) : Context :=
  fresh context.document context.options

def setting (context : Context) : Setting :=
  ⟨context.document, context.options, context.scope⟩

def updateStore (change : Store → Store) (context : Context) : Context :=
  { context with store := change context.store }

def updateScope (change : Scope → Scope) (context : Context) : Context :=
  { context with scope := change context.scope }

/-! ## Runs -/

/-- An action between entering something and leaving it. -/
def between (enter leave : Context → Context) (action : Context → α × Context)
    (context : Context) : α × Context :=
  let (result, after) := action (enter context)
  (result, leave after)

/-- An action within a frame. -/
def inFrame (frame : Frame) (action : Context → α × Context) (context : Context) : α × Context :=
  between (updateScope frame.enter) (updateScope (frame.leave context.scope)) action context

/-- The result of a step of lowering, and the context after it. -/
def run : {α : Type} → LowerM α → Context → Except LoweringError α × Context
  | _, .done result, context => (result, context)
  | _, .reading next, context => run (next context.setting) context
  | _, .changing change next, context =>
    let (value, store) := change context.store
    run (next value) { context with store }
  | _, .within frame step next, context =>
    let (result, after) := inFrame frame (run step) context
    run (next result) after

/-! ## Frames around actions -/

/-- An action one name further on the way. -/
def withSegment (segment : String) : (Context → α × Context) → Context → α × Context :=
  inFrame (.segment segment)

/-- An action one level of composition further down, or the failure that this is too deep. -/
def descend (segment : String) (action : Context → α × Context) (context : Context) :
    Except LoweringError α × Context :=
  let depth := context.scope.depth + 1
  if depth > context.options.maxDepth then
    (.error (.tooDeep (context.scope.pathTextTo segment) depth context.options.maxDepth), context)
  else
    let (result, after) := inFrame (.level segment) action context
    (.ok result, after)

/-- An action at the root of a declaration of its own. -/
def atDeclarationRoot : (Context → α × Context) → Context → α × Context :=
  inFrame .root

/-- An action while a reference is being resolved. -/
def withVisited (reference : String) : (Context → α × Context) → Context → α × Context :=
  inFrame (.visiting reference)

def setDependencies (dependencies : List String) : Context → Context :=
  updateStore fun store => { store with dependencies }

/-- An action with the names it depends on, which count for what surrounds it as well. -/
def collectDependencies (action : Context → α × Context) (context : Context) :
    (α × List String) × Context :=
  let outer := context.store.dependencies
  let (result, after) := action (setDependencies [] context)
  let inner := after.store.dependencies
  ((result, inner), setDependencies (inner.foldl addName outer) after)

/-- An action whose dependencies do not count for what surrounds it. -/
def isolateDependencies (action : Context → α × Context) (context : Context) : α × Context :=
  between (setDependencies []) (setDependencies context.store.dependencies) action context

/-! ## What a context has found out -/

def pathText (context : Context) : String :=
  context.scope.pathText

def isVisiting (context : Context) (reference : String) : Bool :=
  context.scope.visited.contains reference

def recorded? (context : Context) (reference : String) : Option String :=
  context.store.types.lookup reference

/-- A fresh type name made of the base. -/
def claimName (base : String) (context : Context) : String × Context :=
  let (name, store) := context.store.claim base
  (name, { context with store })

/-- Whether a declaration is new by its name, and the context with it. -/
def declareOnce (declaration : Declaration) (context : Context) : Bool × Context :=
  (!context.store.declarations.any (·.name == declaration.name),
    context.updateStore (Store.declare declaration))

def warn (message : String) : Context → Context :=
  updateStore fun store => { store with warnings := store.warnings ++ [message] }

/-- The failure that a reference reaches nothing from here. -/
def unresolved (context : Context) (reference : String) : LoweringError :=
  .unresolved reference context.pathText

def memo (context : Context) : Memo :=
  context.store.memo

end Context

end SchemaTypings
