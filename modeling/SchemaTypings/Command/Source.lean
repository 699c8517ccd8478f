import SchemaTypings.Command.Arguments
import SchemaTypings.Command.Failure
import SchemaTypings.Json.Pointer

/-!
# Sources of schema documents

The inputs of a run are paths or patterns of paths. A file is a source of one document, or of as many
as a filter selects from its value. Which paths match a pattern, and what a filter selects, is found by tools
that a run is given.
-/

namespace SchemaTypings.Command

/-- Why a search for paths fails. -/
inductive SearchError where
  /-- The pattern cannot be read, for a reason. -/
  | badPattern (reason : String)
  | unreadable (error : FileError)

/-- What a run leaves to others. -/
structure Tools (m : Type → Type) where
  /-- The paths that match a pattern. -/
  search : String → m (Except SearchError (List String))
  /-- The values that a filter selects from a value, if it can be read and does not fail. -/
  select? : String → Json → Option (List Json)

/-- A schema document, the file that it comes from, and what it is called in reports. -/
structure Source where
  label : String
  path : String
  document : Document

variable {m : Type → Type} [Monad m]

/-- An operation on files within a run that can be broken off. -/
def attempt {α : Type} (failure : FileError → Failure) (operation : m (Except FileError α)) :
    ExceptT Failure m α :=
  ExceptT.mk do return (← operation).mapError failure

/-- The failure to find a JSON value at the start of a text. -/
def notJson (text : String) (failure : Bool → Position → Failure) : Failure :=
  let cursor := (Cursor.ofText text).skipBlanks
  failure cursor.rest.isEmpty cursor.position

/-- Whether an input is a pattern, to be searched for: it has one of the characters that patterns are made of. -/
def isPattern (input : String) : Bool :=
  input.toList.any fun c => c == '*' || c == '?' || c == '[' || c == '\x7b'

variable (tools : Tools m)

/-- The paths that an input stands for. -/
def inputPaths (input : String) : ExceptT Failure m (List String) := do
  if isPattern input then
    match ← tools.search input with
    | .error (.badPattern reason) => throw (.badPattern input reason)
    | .error (.unreadable error) => throw (.unreadableDirectory error)
    | .ok found =>
      if found.isEmpty then throw (.noMatch input)
      return found
  else return [input]

/-- The values that the filter of the arguments selects; the value itself, if they have none. -/
def selected (arguments : Arguments) (path : String) (value : Json) : Except Failure (List Json) :=
  match arguments.selector with
  | none => .ok [value]
  | some filter =>
    match tools.select? filter value with
    | some found => .ok found
    | none => .error (.notSelected path)

/-- The part of a value at the pointer of the arguments; the value itself, if they have none. -/
def pointedAt (arguments : Arguments) (path : String) (value : Json) : Except Failure Json :=
  match arguments.pointer with
  | none => .ok value
  | some pointer =>
    match value.atPointer? pointer with
    | some part => .ok part
    | none => .error (.nothingThere pointer path)

/-- What the document at a position among `count` selected ones is called. -/
def labelOf (path : String) (count position : Nat) : String :=
  if count > 1 then s!"{path}#{position}" else path

/-- The source that the selected value at a position is. -/
def sourceOf (arguments : Arguments) (path : String) (count : Nat) (value : Json × Nat) :
    Except Failure Source := do
  let part ← pointedAt arguments path value.1
  match Document.ofJson part with
  | .ok document => return ⟨labelOf path count value.2, path, document⟩
  | .error error => throw (.badDocument path error)

def sourcesIn (arguments : Arguments) (path text : String) : Except Failure (List Source) := do
  match Json.read? text with
  | none => throw (notJson text (.sourceNotJson path))
  | some value =>
    let values ← selected tools arguments path value
    values.zipIdx.mapM (sourceOf arguments path values.length)

def readSources (files : FileAccess m) (arguments : Arguments) (path : String) :
    ExceptT Failure m (List Source) := do
  let text ← attempt (.unreadableSource path) (files.read path)
  ExceptT.mk (pure (sourcesIn tools arguments path text))

/-- The sources of a run. All paths are found before the first file is read. -/
def sources (files : FileAccess m) (arguments : Arguments) : ExceptT Failure m (List Source) := do
  let paths ← arguments.inputs.mapM (inputPaths tools)
  let found ← paths.flatten.mapM (readSources tools files arguments)
  return found.flatten

/-- The options of a run: those of the options file, with the choices of the arguments. -/
def runOptions (files : FileAccess m) (arguments : Arguments) : ExceptT Failure m Options := do
  match arguments.optionsFile with
  | none => return arguments.refine {}
  | some path =>
    let text ← attempt (.unreadableOptions path) (files.read path)
    match Options.ofText text with
    | .ok options => return arguments.refine options
    | .error .notJson => throw (notJson text (.optionsNotJson path))
    | .error (.undecodable error) => throw (.badOptions path error)

end SchemaTypings.Command
