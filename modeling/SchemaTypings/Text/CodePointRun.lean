/-!
# Runs of code points

A character class beyond ASCII is a list of runs: the code points from a first one to a last one,
every one of them or every second one. A class is decided by walking its runs.
-/

namespace SchemaTypings.Text

/-- The code points `first, first + step, …` up to and including `last`. -/
structure CodePointRun where
  first : Nat
  last : Nat
  step : Nat
  deriving DecidableEq, Repr

namespace CodePointRun

def contains (run : CodePointRun) (n : Nat) : Bool :=
  run.first ≤ n && n ≤ run.last && (n - run.first) % run.step == 0

theorem contains_iff {run : CodePointRun} {n : Nat} :
    run.contains n = true ↔ run.first ≤ n ∧ n ≤ run.last ∧ (n - run.first) % run.step = 0 := by
  simp [contains, and_assoc]

end CodePointRun

/-- Whether some run of `runs` holds the character. -/
def inRuns (runs : List CodePointRun) (c : Char) : Bool :=
  runs.any fun run => run.contains c.toNat

def isAscii (c : Char) : Bool :=
  c.toNat < 0x80

end SchemaTypings.Text
