import SchemaTypings.Files.Access
import SchemaTypings.Options.Decode
import SchemaTypings.Schema.Document

/-!
# Why a run is broken off

Each cause names what the run was about to do. The text of a cause goes from that to the reason.
-/

namespace SchemaTypings.Command

/-- Why a run is broken off. -/
inductive Failure where
  | badPattern (pattern reason : String)
  | unreadableDirectory (error : FileError)
  | noMatch (pattern : String)
  | unreadableSource (path : String) (error : FileError)
  /-- The text of an input does not begin with a JSON value; it was read up to the place. -/
  | sourceNotJson (path : String) (ended : Bool) (place : Position)
  | notSelected (path : String)
  | nothingThere (pointer path : String)
  | badDocument (path : String) (error : DocumentError)
  | unreadableOptions (path : String) (error : FileError)
  | optionsNotJson (path : String) (ended : Bool) (place : Position)
  | badOptions (path : String) (error : Decode.Error)
  | directoryNotMade (path : String) (error : FileError)
  | notWritten (path : String) (error : FileError)

namespace Failure

/-- What is said of a text that does not begin with a JSON value: whether it has come to its end, and
where. -/
def notJson (ended : Bool) (place : Position) : String :=
  let reason := if ended then "EOF while parsing a value" else "expected value"
  let column := if ended then place.column else place.column + 1
  s!"at JSON path . → {reason} at line {place.line} column {column}"

/-- What the patterns of the inputs are looked up for. -/
def resolving : String := "failed to resolve input file paths"

def message : Failure → String
  | badPattern pattern reason => s!"{resolving}: bad glob pattern {pattern}: {reason}"
  | unreadableDirectory error => s!"{resolving}: {error.message}"
  | noMatch pattern => s!"{resolving}: glob pattern matched no files: {pattern}"
  | unreadableSource path error => s!"failed to read source file {path}: {error.message}"
  | sourceNotJson path ended place =>
    let reason := notJson ended place
    s!"failed to parse JSON source file {path}: {reason}"
  | notSelected path => s!"failed to apply jq expression to {path}"
  | nothingThere pointer path => s!"JSON pointer {pointer} not found in {path}"
  | badDocument path error => s!"invalid schema document {path}: {error.message}"
  | unreadableOptions path error => s!"failed to read options file {path}: {error.message}"
  | optionsNotJson path ended place =>
    let reason := notJson ended place
    s!"invalid options file {path}: {reason}"
  | badOptions path error => s!"invalid options file {path}: {error.message}"
  | directoryNotMade path error => s!"failed to create {path}: {error.message}"
  | notWritten path error => s!"failed to write {path}: {error.message}"

end Failure

end SchemaTypings.Command
