/-!
# Why a schema does not lower
-/

namespace SchemaTypings

/-- A failure to lower one named schema. It leaves the other schemas of a document alone. -/
inductive LoweringError where
  /-- The reference reaches no schema of the document. -/
  | unresolved (reference path : String)
  /-- Compositions are nested deeper than the options allow. -/
  | tooDeep (path : String) (depth maxDepth : Nat)
  /-- The reference leads back to a type that is being composed, and the options forbid it. -/
  | circular (reference path : String)
  /-- An enumeration or a union is empty, and the options forbid it. -/
  | degenerate (path reason : String)
  deriving DecidableEq, Repr

namespace LoweringError

def kind : LoweringError → String
  | unresolved .. => "ReferenceResolutionError"
  | tooDeep .. => "CompositionDepthExceededError"
  | circular .. => "CircularReferenceError"
  | degenerate .. => "DegenerateInputError"

def message : LoweringError → String
  | unresolved reference path =>
    s!"cannot resolve reference \x60{reference}\x60 (at \x60{path}\x60)"
  | tooDeep path depth maxDepth =>
    s!"composition depth {depth} exceeds maxDepth {maxDepth} at \x60{path}\x60"
  | circular reference path => s!"circular reference \x60{reference}\x60 (at \x60{path}\x60)"
  | degenerate path reason => s!"degenerate input at \x60{path}\x60: {reason}"

end LoweringError

end SchemaTypings
