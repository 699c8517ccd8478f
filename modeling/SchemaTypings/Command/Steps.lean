import SchemaTypings.Command.Source
import SchemaTypings.Files.Path
import SchemaTypings.Lowering.Report
import SchemaTypings.Typing.Module

/-!
# Steps of a run

A run lowers every document, says on the error stream what has become of it, and writes a module for
it or only checks it. It ends with the code 0 if everything was lowered, 1 if something was not, and
2 if the run was broken off. The tools that it is given find paths and select values.
-/

namespace SchemaTypings.Command

open Typing

/-- What a run has printed. -/
structure Printed where
  output : String := ""
  errors : String := ""
  deriving DecidableEq, Repr

/-- What a run leaves behind: the code it ends with, and what it has printed. -/
structure Outcome where
  code : Nat
  printed : Printed
  deriving DecidableEq, Repr

/-- The name and the version of the program. -/
def versionLine : String := "schema-lower 0.1.0\n"

/-- What is said of a lowered document. -/
def summary (label : String) (report : Report) : String :=
  let succeeded := report.outputs.length
  let failed := report.failures.length
  s!"lowered {label}: {succeeded} succeeded, {failed} failed\n"
    ++ String.join (report.failures.map fun failure => s!"  ✗ {failure.message}\n")
    ++ String.join (report.memo.warnings.map fun warning => s!"  ! {warning}\n")
    ++ (if report.cancelled then "  run cancelled before every schema was attempted\n" else "")

/-- The report of lowering a document as the arguments say. -/
def lower (arguments : Arguments) (options : Options) (document : Document) : Report :=
  if arguments.parallel then lowerInParallel document options
  else lowerSequentially document options

/-- The name of the file for the module of a source. What follows the last number sign of its label
tells it from others of the same file. -/
def moduleFileName (source : Source) : String :=
  let stem := (Path.stem? source.path).getD "schema"
  match source.label.toList.reverse.dropWhile (· != '#') with
  | [] => s!"{stem}.ts"
  | _ =>
    let index := String.ofList (source.label.toList.reverse.takeWhile (· != '#')).reverse
    s!"{stem}.{index}.ts"

/-- What the steps of a run work in: they print, and can break the run off. -/
abbrev RunT (m : Type → Type) : Type → Type := ExceptT Failure (StateT Printed m)

variable {m : Type → Type} [Monad m]

def printOutput (text : String) : RunT m Unit :=
  modify fun printed => { printed with output := printed.output ++ text }

def printError (text : String) : RunT m Unit :=
  modify fun printed => { printed with errors := printed.errors ++ text }

/-- A step that prints nothing. -/
def silently {α : Type} (step : ExceptT Failure m α) : RunT m α :=
  ExceptT.mk (liftM step.run)

/-- The step that writes a file, after the directory in which it lies. -/
def writeFile (files : FileAccess m) (path text : String) : ExceptT Failure m Unit := do
  let directory := Path.parent path
  if !directory.isEmpty then
    attempt (.directoryNotMade directory) (files.makeDirectory directory)
  attempt (.notWritten path) (files.write path text)

/-- The step that writes the module of a source, `many` saying whether there are several sources. -/
def writeModule (files : FileAccess m) (time : String) (arguments : Arguments) (many : Bool)
    (source : Source) (report : Report) : RunT m Unit := do
  let head := if arguments.banner then some (banner source.label time) else none
  let text := renderModule report.declarations head
  match arguments.out with
  | none => printOutput (text ++ "\n")
  | some out =>
    let path := if many then Path.join out (moduleFileName source) else out
    silently (writeFile files path text)

/-- The step that lowers a source; its result is whether all of it was lowered. -/
def runSource (files : FileAccess m) (time : String) (arguments : Arguments) (options : Options)
    (many : Bool) (source : Source) : RunT m Bool := do
  let report := lower arguments options source.document
  printError (summary source.label report)
  match arguments.task with
  | .check => pure ()
  | .generate => writeModule files time arguments many source report
  return report.isSuccess

/-- The steps of a run; their result is the code it ends with. -/
def runSteps (tools : Tools m) (files : FileAccess m) (time : String) (arguments : Arguments) :
    RunT m Nat := do
  let options ← silently (runOptions files arguments)
  let found ← silently (sources tools files arguments)
  let results ← found.mapM (runSource files time arguments options (found.length > 1))
  return if results.all id then 0 else 1

def run (tools : Tools m) (files : FileAccess m) (time : String) (arguments : Arguments) :
    m Outcome := do
  let (result, printed) ← ((runSteps tools files time arguments).run).run {}
  match result with
  | .ok code => return ⟨code, printed⟩
  | .error failure =>
    let errors := printed.errors ++ s!"error: {failure.message}\n"
    return ⟨2, { printed with errors }⟩

/-- What the program does with tools when it is called with arguments at a time. -/
def callWith (tools : Tools m) (files : FileAccess m) (time : String) (arguments : List String) :
    m Outcome :=
  match Invocation.ofArguments arguments with
  | .ok .version => return ⟨0, { output := versionLine }⟩
  | .ok (.run arguments) => run tools files time arguments
  | .error error => return ⟨2, { errors := s!"error: {error.message}\n" }⟩

end SchemaTypings.Command
