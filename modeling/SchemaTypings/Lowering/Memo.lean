import SchemaTypings.Typing.Declaration

/-!
# Memo tables

What a run leaves behind besides its declarations: the type name of every reference it met, the
aliases it declared for references below named schemas, and its warnings. The tables of several runs
over one document merge into one: for a reference and for a declared name the first one counts.
-/

namespace SchemaTypings

open Typing (Declaration)

/-- The results of a run that outlive it. -/
structure Memo where
  types : List (String × String) := []
  declarations : List Declaration := []
  warnings : List String := []
  deriving DecidableEq, Repr

namespace Memo

/-- The table with a type name for the reference, unless it has one. -/
def addType (types : List (String × String)) (entry : String × String) : List (String × String) :=
  if (types.lookup entry.1).isSome then types else types ++ [entry]

/-- The declarations with one more, unless one has its name. -/
def addDeclaration (declarations : List Declaration) (declaration : Declaration) :
    List Declaration :=
  if declarations.any (·.name == declaration.name) then declarations
  else declarations ++ [declaration]

/-- The first table with what the second one adds. -/
def merge (first second : Memo) : Memo where
  types := second.types.foldl addType first.types
  declarations := second.declarations.foldl addDeclaration first.declarations
  warnings := first.warnings ++ second.warnings

end Memo

end SchemaTypings
