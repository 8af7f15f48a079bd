import ApiDocs.Json.Basic

/-!
# Reading JSON text

A value is read from the front of a list of characters together with what follows it. The `depth`
of a reader bounds how many arrays and objects may still be opened, and its recursion follows it.
-/

namespace ApiDocs.Json

/-! ## Blanks and digits -/

/-- The blanks allowed between the parts of a JSON text. -/
def isGap (c : Char) : Bool :=
  c == ' ' || c == '\n' || c == '\t' || c == '\r'

/-- Drops the blanks at the front. -/
def skipGap (cs : List Char) : List Char :=
  cs.dropWhile isGap

/-- The value of a decimal digit. -/
def digitValue (c : Char) : Nat :=
  c.toNat - 48

/-- Takes the longest row of decimal digits. -/
def takeDigits (cs : List Char) : List Char × List Char :=
  (cs.takeWhile Char.isDigit, cs.dropWhile Char.isDigit)

/-! ## Numbers -/

/-- The greatest whole number of 64 bits. -/
def maxWhole : Nat := Decimal.twoTo 64 - 1

/-- Appends digits to a significand while it stays within 64 bits; gives the significand and how
many digits were left out. -/
def appendDigits (significand : Nat) : List Char → Nat × Nat
  | [] => (significand, 0)
  | c :: rest =>
    let grown := significand * 10 + digitValue c
    if maxWhole < grown then (significand, rest.length + 1) else appendDigits grown rest

/-- A row of digits read as an exponent of at most 31 bits, or nothing if it is larger. -/
def exponentValue (digits : List Char) : Option Nat :=
  let n := digits.foldl (fun acc c => acc * 10 + digitValue c) 0
  if Decimal.twoTo 31 - 1 < n then none else some n

/-- The double `significand * 10 ^ exponent` with a sign. -/
def signedDouble (negative : Bool) (significand : Nat) (exponent : Int) : Option Number := do
  let d ← Decimal.ofDecimal significand exponent
  return .double (d.withSign negative)

/-- Reads an exponent after its letter, for a significand that counts `10 ^ scale`. An exponent of
more than 31 bits gives zero if it is negative or the significand is zero. -/
def readExponent (negative : Bool) (significand : Nat) (scale : Int) (cs : List Char) :
    Option (Number × List Char) :=
  let (down, cs) := match cs with
    | '+' :: rest => (false, rest)
    | '-' :: rest => (true, rest)
    | _ => (false, cs)
  match takeDigits cs with
  | ([], _) => none
  | (digits, rest) =>
    match exponentValue digits with
    | none =>
      if significand ≠ 0 ∧ !down then none
      else some (.double (Decimal.Double.zero.withSign negative), rest)
    | some e => do
      let n ← signedDouble negative significand (if down then scale - e else scale + e)
      return (n, rest)

/-- Reads what may follow the digits of a double: an exponent or nothing. -/
def readDouble (negative : Bool) (significand : Nat) (scale : Int) (cs : List Char) :
    Option (Number × List Char) :=
  match cs with
  | 'e' :: rest => readExponent negative significand scale rest
  | 'E' :: rest => readExponent negative significand scale rest
  | _ => do
    let n ← signedDouble negative significand scale
    return (n, cs)

/-- Reads the digits after a decimal point. Digits that would not fit into 64 bits are ignored. -/
def readFraction (negative : Bool) (significand : Nat) (scale : Int) (cs : List Char) :
    Option (Number × List Char) :=
  match takeDigits cs with
  | ([], _) => none
  | (digits, rest) =>
    let (grown, dropped) := appendDigits significand digits
    readDouble negative grown (scale - (digits.length - dropped : Nat)) rest

/-- A whole number; minus zero, and what does not fit into 64 bits, is a double. -/
def wholeNumber (negative : Bool) (n : Nat) : Option Number :=
  if !negative then some (.whole n)
  else if n = 0 ∨ Decimal.twoTo 63 < n then signedDouble true n 0
  else some (.whole (-n))

/-- Reads a number after its sign. -/
def readUnsigned (negative : Bool) (cs : List Char) : Option (Number × List Char) :=
  match takeDigits cs with
  | ([], _) => none
  | ('0' :: _ :: _, _) => none
  | (digits, rest) =>
    let (significand, dropped) := appendDigits 0 digits
    match rest with
    | '.' :: fraction => readFraction negative significand dropped fraction
    | 'e' :: _ => readDouble negative significand dropped rest
    | 'E' :: _ => readDouble negative significand dropped rest
    | _ =>
      if dropped = 0 then do
        let n ← wholeNumber negative significand
        return (n, rest)
      else readDouble negative significand dropped rest

/-- Reads a number. -/
def readNumber (cs : List Char) : Option (Number × List Char) :=
  match cs with
  | '-' :: rest => readUnsigned true rest
  | _ => readUnsigned false cs

/-! ## Texts -/

/-- The value of a hexadecimal digit. -/
def hexValue? (c : Char) : Option Nat :=
  if '0' ≤ c ∧ c ≤ '9' then some (c.toNat - 48)
  else if 'a' ≤ c ∧ c ≤ 'f' then some (c.toNat - 87)
  else if 'A' ≤ c ∧ c ≤ 'F' then some (c.toNat - 55)
  else none

/-- The value of four hexadecimal digits. -/
def hex4? (a b c d : Char) : Option Nat := do
  let a ← hexValue? a
  let b ← hexValue? b
  let c ← hexValue? c
  let d ← hexValue? d
  return ((a * 16 + b) * 16 + c) * 16 + d

/-- Whether a 16-bit unit is the first of a pair for one character. -/
def isLeading (n : Nat) : Bool := 0xd800 ≤ n && n ≤ 0xdbff

/-- Whether a 16-bit unit is the second of a pair for one character. -/
def isTrailing (n : Nat) : Bool := 0xdc00 ≤ n && n ≤ 0xdfff

/-- The character of an escape of one letter. -/
def shortEscape? (c : Char) : Option Char :=
  match c with
  | '"' => some '"'
  | '\\' => some '\\'
  | '/' => some '/'
  | 'b' => some (Char.ofNat 8)
  | 'f' => some (Char.ofNat 12)
  | 'n' => some '\n'
  | 'r' => some '\r'
  | 't' => some '\t'
  | _ => none

/-- Reads the rest of a quoted text, closing quote included. `acc` holds the characters read so
far, last one first. -/
def readText (acc : List Char) : List Char → Option (String × List Char)
  | [] => none
  | '"' :: rest => some (String.ofList acc.reverse, rest)
  | '\\' :: 'u' :: a :: b :: c :: d :: rest =>
    match hex4? a b c d with
    | none => none
    | some unit =>
      if isTrailing unit then none
      else if isLeading unit then
        match rest with
        | '\\' :: 'u' :: e :: f :: g :: h :: rest =>
          match hex4? e f g h with
          | none => none
          | some next =>
            if isTrailing next then
              readText (Char.ofNat ((unit - 0xd800) * 1024 + (next - 0xdc00) + 0x10000) :: acc) rest
            else none
        | _ => none
      else readText (Char.ofNat unit :: acc) rest
  | '\\' :: c :: rest =>
    match shortEscape? c with
    | some char => readText (char :: acc) rest
    | none => none
  | c :: rest => if c.toNat < 32 || c == '\\' then none else readText (c :: acc) rest

/-! ## Values -/

/-- Reads a value at the front of a text, and leaves the rest. -/
abbrev ValueReader := List Char → Option (Json × List Char)

/-- Reads items up to the closing bracket, after the first item: each after a comma. `fuel` bounds
their number. -/
def readItems (item : ValueReader) : Nat → List Char → Option (List Json × List Char)
  | 0, _ => none
  | fuel + 1, cs =>
    match skipGap cs with
    | ']' :: rest => some ([], rest)
    | ',' :: rest => do
      let (value, rest) ← item (skipGap rest)
      let (values, rest) ← readItems item fuel rest
      return (value :: values, rest)
    | _ => none

/-- Reads a member: a name, a colon and a value. -/
def readMember (item : ValueReader) (cs : List Char) : Option ((String × Json) × List Char) :=
  match cs with
  | '"' :: rest => do
    let (name, rest) ← readText [] rest
    match skipGap rest with
    | ':' :: rest => do
      let (value, rest) ← item (skipGap rest)
      return ((name, value), rest)
    | _ => none
  | _ => none

/-- Reads members up to the closing brace, after the first member. -/
def readMembers (item : ValueReader) :
    Nat → List Char → Option (List (String × Json) × List Char)
  | 0, _ => none
  | fuel + 1, cs =>
    match skipGap cs with
    | '\x7d' :: rest => some ([], rest)
    | ',' :: rest => do
      let (member, rest) ← readMember item (skipGap rest)
      let (members, rest) ← readMembers item fuel rest
      return (member :: members, rest)
    | _ => none

/-- The members of an object as read: a name that occurs again gives its last value at its first
place. -/
def mergeMembers (members : List (String × Json)) : List (String × Json) :=
  members.foldl (fun acc (name, value) => put name value acc) []

/-- Reads an array after its opening bracket. -/
def readArray (item : ValueReader) (cs : List Char) : Option (Json × List Char) :=
  match skipGap cs with
  | ']' :: rest => some (.array [], rest)
  | cs => do
    let (first, rest) ← item cs
    let (items, rest) ← readItems item (rest.length + 1) rest
    return (.array (first :: items), rest)

/-- Reads an object after its opening brace. -/
def readObject (item : ValueReader) (cs : List Char) : Option (Json × List Char) :=
  match skipGap cs with
  | '\x7d' :: rest => some (.object [], rest)
  | cs => do
    let (first, rest) ← readMember item cs
    let (members, rest) ← readMembers item (rest.length + 1) rest
    return (.object (mergeMembers (first :: members)), rest)

/-- Reads a value that opens no array and no object. -/
def readScalar : List Char → Option (Json × List Char)
  | 'n' :: 'u' :: 'l' :: 'l' :: rest => some (.null, rest)
  | 't' :: 'r' :: 'u' :: 'e' :: rest => some (.bool true, rest)
  | 'f' :: 'a' :: 'l' :: 's' :: 'e' :: rest => some (.bool false, rest)
  | '"' :: rest => do
    let (text, rest) ← readText [] rest
    return (.string text, rest)
  | cs => do
    let (n, rest) ← readNumber cs
    return (.number n, rest)

/-- Reads a value within which at most `depth` arrays and objects are open at once. -/
def readValue : Nat → List Char → Option (Json × List Char)
  | 0, cs =>
    match cs with
    | '[' :: _ => none
    | '\x7b' :: _ => none
    | _ => readScalar cs
  | depth + 1, cs =>
    match cs with
    | '[' :: rest => readArray (readValue depth) rest
    | '\x7b' :: rest => readObject (readValue depth) rest
    | _ => readScalar cs

/-- How many arrays and objects may be open at once. -/
def maxDepth : Nat := 127

/-- The value of a JSON text, blanks around it allowed. -/
def parse? (text : String) : Option Json :=
  match readValue maxDepth (skipGap text.toList) with
  | some (value, rest) => if (skipGap rest).isEmpty then some value else none
  | none => none

end ApiDocs.Json
