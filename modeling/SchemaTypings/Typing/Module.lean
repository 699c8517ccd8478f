import SchemaTypings.Typing.Declaration

/-!
# Modules

A module holds declarations in an order in which what is referred to comes first. Declarations of one
name stay together, exact repetitions are dropped, and a cycle is cut where a search along the
dependencies comes back to a name that it is still visiting.
-/

namespace SchemaTypings.Typing

/-- The declarations of one name. -/
structure NameGroup where
  name : String
  declarations : List Declaration
  deriving DecidableEq, Repr

namespace NameGroup

/-- The declarations with one more, unless one has its text. -/
def addDistinct (declarations : List Declaration) (declaration : Declaration) : List Declaration :=
  if declarations.any (·.content == declaration.content) then declarations
  else declarations ++ [declaration]

/-- The groups with one more declaration: in the group of its name, or in a new one. -/
def insert (declaration : Declaration) : List NameGroup → List NameGroup
  | [] => [⟨declaration.name, [declaration]⟩]
  | group :: rest =>
    if group.name == declaration.name then
      { group with declarations := addDistinct group.declarations declaration } :: rest
    else group :: insert declaration rest

/-- The groups of the declarations, in the order in which their names first occur. -/
def ofDeclarations (declarations : List Declaration) : List NameGroup :=
  declarations.foldl (fun groups declaration => insert declaration groups) []

def find (groups : List NameGroup) (name : String) : List Declaration :=
  ((groups.find? (·.name == name)).map (·.declarations)).getD []

/-- The names that the declarations of a name refer to and that have declarations themselves. -/
def dependencies (groups : List NameGroup) (name : String) : List String :=
  ((find groups name).flatMap (·.dependencies)).filter fun dependency =>
    groups.any (·.name == dependency)

/-- The names that are finished once `name` is: those it refers to first, and then itself. Nothing is
added for a name that is finished or on the way to here. As every step makes the way longer by
a name, as many steps as there are names suffice. -/
def finish (groups : List NameGroup) : Nat → List String → List String → String → List String
  | 0, _, finished, _ => finished
  | steps + 1, way, finished, name =>
    if finished.contains name || way.contains name then finished
    else
      (dependencies groups name).foldl (finish groups steps (name :: way)) finished ++ [name]

end NameGroup

def orderedNames (groups : List NameGroup) : List String :=
  (groups.map (·.name)).foldl (NameGroup.finish groups groups.length []) []

def orderDeclarations (declarations : List Declaration) : List Declaration :=
  let groups := NameGroup.ofDeclarations declarations
  (orderedNames groups).flatMap (NameGroup.find groups)

/-- The text of a module: a banner if there is one, and the declarations, a blank line between any
two. -/
def renderModule (declarations : List Declaration) (banner : Option String) : String :=
  let texts := (orderDeclarations declarations).map (·.content)
  (banner.map fun text => s!"{text}\n").getD "" ++ String.intercalate "\n\n" texts
    ++ (if texts.isEmpty then "" else "\n")

/-- The banner of a module that was made from a source at a time. -/
def banner (source time : String) : String :=
  s!"// Generated by schema-lower from {source} at {time}.\n// Do not edit by hand.\n"

end SchemaTypings.Typing
