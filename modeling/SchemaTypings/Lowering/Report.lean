import SchemaTypings.Lowering.Named

/-!
# Lowering a document

Every named schema of a document is lowered, and the failure of one leaves the others alone. One store
may serve the whole document, or each schema may start afresh, the memo tables being merged in the
order of the document.
-/

namespace SchemaTypings

open Typing

/-- A named schema that was lowered. -/
structure TypeOutput where
  name : String
  pointer : String
  operation : Operation
  declarations : List Declaration

/-- A named schema that failed. -/
structure TypeFailure where
  name : String
  pointer : String
  error : LoweringError

/-- The text of a failure. -/
def TypeFailure.message (failure : TypeFailure) : String :=
  s!"{failure.name} ({failure.pointer}): {failure.error.kind}: {failure.error.message}"

/-- What has become of the named schemas of a document, in its order. A run that was cancelled has not
tried all of them. -/
structure Report where
  outputs : List TypeOutput := []
  failures : List TypeFailure := []
  memo : Memo := {}
  cancelled : Bool := false

namespace Report

/-- Whether every named schema was lowered. -/
def isSuccess (report : Report) : Bool :=
  report.failures.isEmpty && !report.cancelled

/-- All declarations: first the aliases of references below named schemas. -/
def declarations (report : Report) : List Declaration :=
  report.memo.declarations ++ report.outputs.flatMap (·.declarations)

/-- The report with the result of one more named schema. -/
def record (report : Report) (entry : NamedSchema)
    (result : Except LoweringError (List Declaration)) : Report :=
  match result with
  | .ok declarations =>
    let output := ⟨entry.name, entry.pointer, Operation.select entry.schema, declarations⟩
    { report with outputs := report.outputs ++ [output] }
  | .error error =>
    { report with failures := report.failures ++ [⟨entry.name, entry.pointer, error⟩] }

/-- The report of a run that was cancelled before it began. -/
def ofCancelled (document : Document) : Report :=
  { cancelled := !document.named.isEmpty }

end Report

/-- The report and the store after one more named schema. -/
def lowerNext (document : Document) (options : Options) (state : Report × Store)
    (entry : NamedSchema) : Report × Store :=
  let (result, store) := (Lowering.lowerNamed entry).runWith { document, options } state.2
  (state.1.record entry result, store)

/-- The report of a run with one store for all named schemas. -/
def lowerSequentially (document : Document) (options : Options) : Report :=
  let (report, store) :=
    document.named.foldl (lowerNext document options) ({}, Store.fresh document)
  { report with memo := store.memo }

/-- The report after one more named schema that starts with a fresh store. -/
def lowerApart (document : Document) (options : Options) (report : Report) (entry : NamedSchema) :
    Report :=
  let (result, store) :=
    (Lowering.lowerNamed entry).runWith { document, options } (Store.fresh document)
  let recorded := report.record entry result
  { recorded with memo := recorded.memo.merge store.memo }

/-- The report of a run with a store for each named schema. -/
def lowerInParallel (document : Document) (options : Options) : Report :=
  document.named.foldl (lowerApart document options) {}

end SchemaTypings
