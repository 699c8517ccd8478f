import SchemaTypings.Files.Access
import SchemaTypings.Files.Path

/-!
# Files in memory

A tree of files as a value: the texts of files by the names on the way to them. A directory is there
when a file lies below it; the root is always there, and nothing lies outside.
-/

namespace SchemaTypings

/-- Files by the names on the way to them. -/
structure FileTree where
  files : List (List String × String) := []
  deriving Inhabited, Repr

namespace FileTree

/-- What is found at a place. -/
inductive Found where
  | file (text : String)
  | directory
  deriving DecidableEq, Repr

/-- What the names lead to. -/
def at? (tree : FileTree) (place : List String) : Option Found :=
  match tree.files.lookup place with
  | some text => some (.file text)
  | none =>
    if place.isEmpty || tree.files.any (fun file => place.isPrefixOf file.1) then some .directory
    else none

/-- The place one part of a path further on, from a directory. -/
def step (tree : FileTree) (place : List String) (part : String) : Except FileError (List String) :=
  match tree.at? place with
  | none => .error .notFound
  | some (.file _) => .error .notADirectory
  | some .directory =>
    if Path.staysPut part then .ok place
    else if part == ".." then
      if place.isEmpty then .error .notFound else .ok place.dropLast
    else .ok (place ++ [part])

/-- The place that a path leads to from the root. -/
def place (tree : FileTree) (path : String) : Except FileError (List String) :=
  if path.isEmpty || path.startsWith "/" then .error .notFound
  else (Path.parts path).foldlM tree.step []

/-- What a path leads to. -/
def find (tree : FileTree) (path : String) : Except FileError Found := do
  match tree.at? (← tree.place path) with
  | some found => return found
  | none => throw .notFound

def read (tree : FileTree) (path : String) : Except FileError String := do
  match ← tree.find path with
  | .file text => return text
  | .directory => throw .isADirectory

def isPresent (tree : FileTree) (path : String) : Bool :=
  (tree.find path).toOption.isSome

def isDirectory (tree : FileTree) (path : String) : Bool :=
  match tree.find path with
  | .ok .directory => true
  | _ => false

/-- The names of what is in the directory at a place. -/
def namesIn (tree : FileTree) (place : List String) : List String :=
  (tree.files.filterMap fun file =>
    if place.isPrefixOf file.1 then (file.1.drop place.length).head? else none).eraseDups

def names (tree : FileTree) (path : String) : Except FileError (List String) := do
  match ← tree.find path with
  | .file _ => throw .notADirectory
  | .directory => return tree.namesIn (← tree.place path)

/-- Why no directory can be made at a place, if a file stands there or on the way. -/
def obstacle? (tree : FileTree) (place : List String) : Option FileError :=
  if (tree.files.lookup place).isSome then some .alreadyExists
  else if tree.files.any fun file => file.1.isPrefixOf place then some .notADirectory
  else none

/-- The place that a path leads to once the directories on the way are there. -/
def futurePlace (path : String) : List String :=
  (Path.parts path).foldl (fun place part =>
    if Path.staysPut part then place
    else if part == ".." then place.dropLast
    else place ++ [part]) []

/-- Whether a directory can be made at a path; it is there as soon as a file lies below it. -/
def makeDirectory (tree : FileTree) (path : String) : Except FileError Unit :=
  match tree.obstacle? (futurePlace path) with
  | some error => .error error
  | none => .ok ()

/-- The tree with a file at a path. -/
def write (tree : FileTree) (path text : String) : Except FileError FileTree :=
  let place := futurePlace path
  if path.isEmpty then .error .notFound
  else match tree.at? place with
    | some .directory => .error .isADirectory
    | some (.file _) =>
      if path.endsWith "/" then .error .notADirectory
      else .ok ⟨tree.files.map fun file => if file.1 == place then (place, text) else file⟩
    | none =>
      if path.endsWith "/" then .error .isADirectory else .ok ⟨tree.files ++ [(place, text)]⟩

/-- The operations on files, in a tree. -/
def access : FileAccess (StateM FileTree) where
  read path := return (← get).read path
  isPresent path := return (← get).isPresent path
  isDirectory path := return (← get).isDirectory path
  names path := return (← get).names path
  makeDirectory path := return (← get).makeDirectory path
  write path text := do
    match (← get).write path text with
    | .ok tree => set tree; return .ok ()
    | .error error => return .error error

def ofPaths (files : List (String × String)) : FileTree :=
  ⟨files.map fun (path, text) => (futurePlace path, text)⟩

def pathTo (place : List String) : String :=
  String.intercalate "/" place

end FileTree

end SchemaTypings
