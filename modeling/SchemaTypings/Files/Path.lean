import SchemaTypings.Text.Split

/-!
# Paths

The text of a path holds names with slashes between them. Empty names and points stay where they are,
except for the slash at the start of an absolute path.
-/

namespace SchemaTypings.Path

/-- The parts of a path between its slashes. -/
def parts (path : String) : List String :=
  (Text.fields '/' path.toList).map String.ofList

/-- Whether a part of a path stays where it is. -/
def staysPut (part : String) : Bool :=
  part == "" || part == "."

def join (path name : String) : String :=
  if path.isEmpty || path.endsWith "/" then path ++ name else s!"{path}/{name}"

def isHere (path : String) : Bool :=
  path.startsWith "." && (parts path).all staysPut

/-- The reversed path without the slashes and points at its end that stay put. -/
def trimReversed : List Char → List Char
  | '/' :: rest => if rest.isEmpty then ['/'] else trimReversed rest
  | '.' :: '/' :: rest => if rest.isEmpty then ['/'] else trimReversed rest
  | cs => cs

/-- The path without the slashes and points at its end that stay put. -/
def trim (path : String) : String :=
  String.ofList (trimReversed path.toList.reverse).reverse

/-- The path of the directory in which a path lies; empty for the current one. -/
def parent (path : String) : String :=
  let lead := ((trim path).toList.reverse.dropWhile (· != '/')).reverse
  trim (String.ofList lead)

/-- The name at the end of a path, unless it leads upward. -/
def name? (path : String) : Option String :=
  match (parts path).reverse.dropWhile staysPut with
  | [] => none
  | last :: _ => if last == ".." then none else some last

/-- The name at the end of a path without what follows its last point. A point at the very start of
a name is part of it. -/
def stem? (path : String) : Option String :=
  (name? path).map fun name =>
    match name.toList.reverse.dropWhile (· != '.') with
    | _ :: c :: rest => String.ofList (c :: rest).reverse
    | _ => name

end SchemaTypings.Path
