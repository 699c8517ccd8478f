import SchemaTypings.Command.Steps
import SchemaTypings.StandIn.Search
import SchemaTypings.StandIn.Selector

/-!
# Runs of the program

The program is run with stand-ins for the tools that it leaves the search for paths and the selection of
values to.
-/

namespace SchemaTypings.Command

variable {m : Type → Type} [Monad m]

/-- The paths that the stand-in for the search finds. -/
def searchIn (files : FileAccess m) (pattern : String) : m (Except SearchError (List String)) := do
  match Search.ofPattern pattern with
  | .error error => return .error (.badPattern error.message)
  | .ok search => return (← search.run files).mapError .unreadable

def standIns (files : FileAccess m) : Tools m where
  search := searchIn files
  select? := Selector.select?

/-- What the program does when it is called with arguments at a time. -/
def call (files : FileAccess m) (time : String) (arguments : List String) : m Outcome :=
  callWith (standIns files) files time arguments

end SchemaTypings.Command
