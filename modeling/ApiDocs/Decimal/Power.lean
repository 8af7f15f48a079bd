/-!
# Powers of two and ten

The scales on which numbers are written, in bits and in decimal digits.
-/

namespace ApiDocs.Decimal

/-- The `k`-th power of two. -/
abbrev twoTo (k : Nat) : Nat := Nat.pow 2 k

/-- The `k`-th power of ten. -/
abbrev tenTo (k : Nat) : Nat := Nat.pow 10 k

end ApiDocs.Decimal
