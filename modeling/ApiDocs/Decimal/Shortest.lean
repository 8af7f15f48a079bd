import ApiDocs.Decimal.Double

/-!
# Shortest decimals

The fewest decimal digits that still round to a given double. For one digit, two digits and so on
the two neighbours of the number on that decimal grid are tried; the first grid with a neighbour
inside the interval of numbers that round to the double wins.
-/

namespace ApiDocs.Decimal

/-- Whether `a / b` rounds to the positive double: it lies within half a unit of the last place,
ends included if the mantissa is even. Below a power of two the unit is half as large. -/
def roundsTo (d : Double) (a b : Nat) : Bool :=
  let (num, den) := d.ratio
  let narrow := d.mantissa = twoTo 52 ∧ -1074 < d.exponent
  -- in quarters of the last place
  let low := 4 * d.mantissa - (if narrow then 1 else 2)
  let high := 4 * d.mantissa + 2
  let scaled := 4 * a * d.mantissa * den
  let unit := num * b
  if d.mantissa % 2 = 0 then low * unit ≤ scaled && scaled ≤ high * unit
  else low * unit < scaled && scaled < high * unit

/-- The greatest `k` with `10 ^ k ≤ num / den`, for a positive fraction. The search starts from the
binary logarithm and moves by at most `steps`. -/
def floorLog10From (num den : Nat) (steps : Nat) (k : Int) : Int :=
  let atLeast (k : Int) : Bool :=
    if 0 ≤ k then den * tenTo k.toNat ≤ num else den ≤ num * tenTo (-k).toNat
  match steps with
  | 0 => k
  | steps + 1 =>
    if !atLeast k then floorLog10From num den steps (k - 1)
    else if atLeast (k + 1) then floorLog10From num den steps (k + 1)
    else k

/-- The greatest `k` with `10 ^ k ≤ num / den`, for a positive fraction. -/
def floorLog10 (num den : Nat) : Int :=
  floorLog10From num den 400 (floorLog2 num den * 30103 / 100000)

/-- The fraction `digits * 10 ^ scale`. -/
def gridPoint (digits : Nat) (scale : Int) : Nat × Nat :=
  if 0 ≤ scale then (digits * tenTo scale.toNat, 1) else (digits, tenTo (-scale).toNat)

/-- The neighbour of the double on the grid of step `10 ^ scale` that rounds to it, the nearer of
two, and of two equally near ones the even one. -/
def neighbourOn (d : Double) (scale : Int) : Option Nat :=
  let (num, den) := d.ratio
  -- the number in units of the grid is `n / m`
  let (n, m) :=
    if 0 ≤ scale then (num, den * tenTo scale.toNat) else (num * tenTo (-scale).toNat, den)
  let below := n / m
  let rest := n % m
  let fits (k : Nat) : Bool := let (a, b) := gridPoint k scale; 0 < k && roundsTo d a b
  match fits below, fits (below + 1) with
  | true, true =>
    some (if 2 * rest < m then below
      else if m < 2 * rest then below + 1
      else below + below % 2)
  | true, false => some below
  | false, true => some (below + 1)
  | false, false => none

/-- The first of the grids of step `10 ^ top`, `10 ^ (top - 1)`, ... with a fitting neighbour. -/
def shortestFrom (d : Double) : Nat → Int → Option (Nat × Int)
  | 0, _ => none
  | tries + 1, scale =>
    match neighbourOn d scale with
    | some digits => some (digits, scale)
    | none => shortestFrom d tries (scale - 1)

/-- The decimal `digits * 10 ^ scale` with the fewest digits that rounds to a positive double. -/
def shortest (d : Double) : Nat × Int :=
  let (num, den) := d.ratio
  (shortestFrom d 18 (floorLog10 num den)).getD (0, 0)

end ApiDocs.Decimal
