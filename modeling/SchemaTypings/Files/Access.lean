/-!
# Access to files

What a run does to files, as operations in some monad, and why they fail.
-/

namespace SchemaTypings

/-- Why an operation on a file fails. -/
inductive FileError where
  | notFound
  | alreadyExists
  | notADirectory
  | isADirectory
  | permissionDenied
  /-- The file does not hold a text. -/
  | notText
  /-- Another reason, with its text. -/
  | other (text : String)
  deriving DecidableEq, Repr

def FileError.message : FileError → String
  | notFound => "No such file or directory (os error 2)"
  | alreadyExists => "File exists (os error 17)"
  | notADirectory => "Not a directory (os error 20)"
  | isADirectory => "Is a directory (os error 21)"
  | permissionDenied => "Permission denied (os error 13)"
  | notText => "stream did not contain valid UTF-8"
  | other text => text

/-- Operations on files, which are named by their paths. -/
structure FileAccess (m : Type → Type) where
  /-- The text of a file. -/
  read : String → m (Except FileError String)
  /-- Whether there is something. -/
  isPresent : String → m Bool
  /-- Whether there is a directory. -/
  isDirectory : String → m Bool
  /-- The names of what is in a directory, in any order. -/
  names : String → m (Except FileError (List String))
  /-- Makes a directory, and those on the way to it, where they are missing. -/
  makeDirectory : String → m (Except FileError Unit)
  /-- Makes a file with a text, in the place of one that is there. -/
  write : String → String → m (Except FileError Unit)

end SchemaTypings
