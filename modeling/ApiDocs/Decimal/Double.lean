import ApiDocs.Decimal.Power

/-!
# Doubles

A finite number of 53 significant bits, and the rounding of a fraction to the nearest one. All
arithmetic is on natural numbers, so every step is exact until `roundRatio` rounds once.
-/

namespace ApiDocs.Decimal

/-- The number `mantissa * 2 ^ exponent`, with a sign that zero has too. -/
structure Double where
  /-- Whether the sign is a minus. -/
  negative : Bool
  /-- The significant bits, fewer than 54. -/
  mantissa : Nat
  /-- The power of two, not below -1074. -/
  exponent : Int
  deriving DecidableEq

/-- Positive zero. -/
def Double.zero : Double := ⟨false, 0, 0⟩

/-- The magnitude as a fraction. -/
def Double.ratio (d : Double) : Nat × Nat :=
  if 0 ≤ d.exponent then (d.mantissa * twoTo d.exponent.toNat, 1)
  else (d.mantissa, twoTo (-d.exponent).toNat)

/-- The same magnitude with the given sign. -/
def Double.withSign (negative : Bool) (d : Double) : Double :=
  { d with negative }

/-! ## Rounding -/

/-- The nearest natural number to `num / den`; a half goes to the even neighbour. -/
def roundDiv (num den : Nat) : Nat :=
  let q := num / den
  let r := num % den
  if 2 * r < den then q
  else if den < 2 * r then q + 1
  else q + q % 2

/-- The greatest `k` with `2 ^ k ≤ num / den`, for a positive fraction. -/
def floorLog2 (num den : Nat) : Int :=
  let k : Int := (Nat.log2 num : Int) - (Nat.log2 den : Int)
  let reached :=
    if 0 ≤ k then decide (den * twoTo k.toNat ≤ num) else decide (den ≤ num * twoTo (-k).toNat)
  if reached then k else k - 1

/-- `num / den` in units of `2 ^ e`, rounded. -/
def roundScaled (num den : Nat) (e : Int) : Nat :=
  if 0 ≤ e then roundDiv num (den * twoTo e.toNat) else roundDiv (num * twoTo (-e).toNat) den

/-- The double nearest to `num / den`, or nothing if it would be too large. -/
def roundRatio (num den : Nat) : Option Double :=
  if num = 0 then some Double.zero
  else
    let e := max (floorLog2 num den - 52) (-1074)
    let m := roundScaled num den e
    let d : Double := if m = twoTo 53 then ⟨false, twoTo 52, e + 1⟩ else ⟨false, m, e⟩
    if m = 0 then some Double.zero
    else if 971 < d.exponent then none
    else some d

/-! ## Reading a decimal -/

/-- `10 ^ k` as a double, for `k` at most 308. -/
def tenPower (k : Nat) : Double :=
  (roundRatio (tenTo k) 1).getD Double.zero

/-- The rounded product of two magnitudes. -/
def mulRound (a b : Double) : Option Double :=
  let (an, ad) := a.ratio
  let (bn, bd) := b.ratio
  roundRatio (an * bn) (ad * bd)

/-- The rounded quotient of two magnitudes. -/
def divRound (a b : Double) : Double :=
  let (an, ad) := a.ratio
  let (bn, bd) := b.ratio
  (roundRatio (an * bd) (ad * bn)).getD Double.zero

/-- Divides by `10 ^ n`, in steps of at most `10 ^ 308`, each step rounded. -/
def shrink (d : Double) (n : Nat) : Double :=
  if n ≤ 308 then divRound d (tenPower n)
  else if d.mantissa = 0 then d
  else shrink (divRound d (tenPower 308)) (n - 308)
termination_by n

/-- The double read for `significand * 10 ^ exponent`: the significand is rounded, then multiplied
or divided by a rounded power of ten. Nothing stands for a number that is too large. -/
def ofDecimal (significand : Nat) (exponent : Int) : Option Double := do
  let d ← roundRatio significand 1
  if exponent < 0 then return shrink d (-exponent).toNat
  else if exponent ≤ 308 then mulRound d (tenPower exponent.toNat)
  else if d.mantissa = 0 then return d
  else none

end ApiDocs.Decimal
