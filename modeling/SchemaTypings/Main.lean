import SchemaTypings.Command.Clock
import SchemaTypings.Command.Run
import Std.Time.DateTime.Timestamp

/-!
# The program

The outer layer: the operations on files, the time, and the two streams.
-/

namespace SchemaTypings

/-- Why the system fails an operation on a file. It gives an error its number, or the negative of that
number. -/
def FileError.ofSystem : IO.Error → FileError
  | .noFileOrDirectory .. => .notFound
  | .alreadyExists .. => .alreadyExists
  | .permissionDenied .. => .permissionDenied
  | .inappropriateType _ code _ =>
    if code == 21 || code == 0 - 21 then .isADirectory else .notADirectory
  | error => .other error.toString

/-- The result of an operation on a file. -/
def attemptFile {α : Type} (operation : IO α) : IO (Except FileError α) := do
  match ← operation.toBaseIO with
  | .ok result => return .ok result
  | .error error => return .error (FileError.ofSystem error)

/-- The operations on the files of the system. -/
def systemFiles : FileAccess IO where
  read path := do
    match ← attemptFile (IO.FS.readBinFile path) with
    | .ok bytes => return (String.fromUTF8? bytes).elim (.error .notText) .ok
    | .error error => return .error error
  isPresent path := do
    match ← (IO.FS.realPath path).toBaseIO with
    | .ok _ => return true
    | .error _ => return false
  isDirectory path := do
    match ← (IO.FS.realPath path).toBaseIO with
    | .ok found => found.isDir
    | .error _ => return false
  names path := attemptFile do
    let found ← IO.FS.realPath path
    return (← found.readDir).toList.map (·.fileName)
  makeDirectory path := attemptFile (IO.FS.createDirAll path)
  write path text := attemptFile (IO.FS.writeFile path text)

/-- The seconds since the beginning of 1970. -/
def secondsNow : IO Nat := do
  return (← Std.Time.Timestamp.now).toSecondsSinceUnixEpoch.val.toNat

end SchemaTypings

open SchemaTypings in
def main (arguments : List String) : IO UInt32 := do
  let time := Clock.instantText (← secondsNow)
  let outcome ← Command.call systemFiles time arguments
  (← IO.getStdout).putStr outcome.printed.output
  (← IO.getStderr).putStr outcome.printed.errors
  return outcome.code.toUInt32
