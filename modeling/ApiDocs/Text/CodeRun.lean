/-!
# Runs of code points

A class of characters is given by a list of runs: code points at equal distances from a first one
to a last one. Alternating upper- and lower-case letters make runs of distance two.
-/

namespace ApiDocs.Text

/-- The code points `first`, `first + step`, ..., `last`. -/
structure CodeRun where
  /-- The least code point of the run. -/
  first : Nat
  /-- The greatest code point of the run. -/
  last : Nat
  /-- The distance between neighbours of the run. -/
  step : Nat

/-- Whether the code point `n` belongs to the run. -/
def CodeRun.contains (r : CodeRun) (n : Nat) : Bool :=
  r.first ≤ n && n ≤ r.last && (n - r.first) % r.step == 0

/-- Whether a character belongs to one of the runs. -/
def inRuns (runs : List CodeRun) (c : Char) : Bool :=
  runs.any fun r => r.contains c.toNat

end ApiDocs.Text
