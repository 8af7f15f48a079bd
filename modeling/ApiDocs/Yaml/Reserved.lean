import ApiDocs.Decimal.Double

/-!
# Reserved texts of YAML

Texts that a reader of YAML takes for something else than a text when they are not quoted: the empty
value, truth values, whole numbers in four bases, and decimals within the range of doubles.
-/

namespace ApiDocs.Yaml

/-! ## Words -/

/-- The spellings of the empty value. -/
def nullWords : List String := ["", "null", "Null", "NULL", "~"]

/-- The spellings of truth values. -/
def boolWords : List String := ["true", "True", "TRUE", "false", "False", "FALSE"]

/-- The spellings of infinities, and of what is no number. A plus may stand before an infinity. -/
def specialWords : List String :=
  [".inf", ".Inf", ".INF", "+.inf", "+.Inf", "+.INF", "-.inf", "-.Inf", "-.INF", ".nan", ".NaN",
    ".NAN"]

/-! ## Whole numbers -/

/-- The value of a digit in a base. -/
def digit? (base : Nat) (c : Char) : Option Nat :=
  let n := c.toNat
  let value? :=
    if '0' ≤ c ∧ c ≤ '9' then some (n - 48)
    else if 'a' ≤ c ∧ c ≤ 'z' then some (n - 87)
    else if 'A' ≤ c ∧ c ≤ 'Z' then some (n - 55)
    else none
  value?.filter (· < base)

/-- The value of digits in a base, after digits of the value `acc`. -/
def digitsFrom? (base acc : Nat) : List Char → Option Nat
  | [] => some acc
  | c :: rest =>
    match digit? base c with
    | some d => digitsFrom? base (acc * base + d) rest
    | none => none

/-- The value of at least one digit in a base. -/
def digits? (base : Nat) (cs : List Char) : Option Nat :=
  if cs.isEmpty then none else digitsFrom? base 0 cs

/-- The base that the mark at the front of a number names, and its digits. -/
def splitBase? : List Char → Option (Nat × List Char)
  | '0' :: 'x' :: rest => some (16, rest)
  | '0' :: 'o' :: rest => some (8, rest)
  | '0' :: 'b' :: rest => some (2, rest)
  | _ => none

/-- Whether `cs` is a whole number with a mark for its base, not above `limit`. -/
def isBased (limit : Nat) (cs : List Char) : Bool :=
  match splitBase? cs with
  | some (base, rest) => (digits? base rest).any (· ≤ limit)
  | none => false

/-- Whether a text is a whole number with a mark for its base, within 128 bits. -/
def isBasedNumber : List Char → Bool
  | '-' :: rest => isBased (Decimal.twoTo 127) rest
  | '+' :: rest => isBased (Decimal.twoTo 128 - 1) rest
  | cs => isBased (Decimal.twoTo 128 - 1) cs

/-- The text without a sign at the front. -/
def dropSign : List Char → List Char
  | '+' :: rest => rest
  | '-' :: rest => rest
  | cs => cs

/-- Whether a character is a decimal digit. -/
def isDecimal (c : Char) : Bool :=
  (digit? 10 c).isSome

/-- Whether a text is several digits of which the first is a zero. -/
def isPadded (cs : List Char) : Bool :=
  match dropSign cs with
  | '0' :: c :: rest => (c :: rest).all isDecimal
  | _ => false

/-! ## Decimals -/

/-- The exponent at the end of a decimal: zero if nothing is there. -/
def exponent? : List Char → Option Int
  | [] => some 0
  | c :: rest =>
    if c = 'e' ∨ c = 'E' then
      match rest with
      | '-' :: digits => (digits? 10 digits).map fun n => -(n : Int)
      | '+' :: digits => (digits? 10 digits).map Int.ofNat
      | digits => (digits? 10 digits).map Int.ofNat
    else none

/-- The significant digits and the power of ten of a decimal without a sign. -/
def decimal? (cs : List Char) : Option (Nat × Int) :=
  let whole := cs.takeWhile isDecimal
  let (fraction, rest) := match cs.dropWhile isDecimal with
    | '.' :: rest => (rest.takeWhile isDecimal, rest.dropWhile isDecimal)
    | rest => ([], rest)
  match digits? 10 (whole ++ fraction), exponent? rest with
  | some significand, some e => some (significand, e - fraction.length)
  | _, _ => none

/-- Whether a decimal has a double next to it, and does not lie beyond all of them. -/
def isInRange (significand : Nat) (exponent : Int) : Bool :=
  if significand = 0 then true
  else
    let size := (Nat.toDigits 10 significand).length + exponent
    if size < -400 then true
    else if 400 < size then false
    else if 0 ≤ exponent then
      (Decimal.roundRatio (significand * Decimal.tenTo exponent.toNat) 1).isSome
    else (Decimal.roundRatio significand (Decimal.tenTo (-exponent).toNat)).isSome

/-- Whether a text is a decimal within the range of doubles. -/
def isDecimalNumber (cs : List Char) : Bool :=
  match decimal? (dropSign cs) with
  | some (significand, e) => isInRange significand e
  | none => false

/-! ## All together -/

/-- Whether a text without quotes would be read as something else than a text, or looks like a
number that is written with zeros at its front. -/
def isReserved (s : String) : Bool :=
  nullWords.contains s || boolWords.contains s || specialWords.contains s
    || isBasedNumber s.toList || isPadded s.toList || isDecimalNumber s.toList

end ApiDocs.Yaml
