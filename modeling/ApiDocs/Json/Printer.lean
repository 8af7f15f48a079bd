import ApiDocs.Decimal.Shortest
import ApiDocs.Json.Basic

/-!
# JSON text of a value

The compact text of a value, and the text with one item to a line and a given indent. Numbers have
the fewest digits that read back; texts escape the quote, the backslash and control characters.
-/

namespace ApiDocs.Json

/-! ## Numbers -/

/-- The decimal digits of a natural number. -/
def natChars (n : Nat) : List Char :=
  Nat.toDigits 10 n

/-- The text of a whole number. -/
def intChars (n : Int) : List Char :=
  if n < 0 then '-' :: natChars n.natAbs else natChars n.natAbs

/-- `n` zeros. -/
def zeros (n : Nat) : List Char :=
  List.replicate n '0'

/-- A decimal in plain notation, where the first of the digits counts `10 ^ lead`. There is
always a digit on both sides of the point. -/
def plainChars (digits : List Char) (lead : Int) : List Char :=
  if lead < 0 then '0' :: '.' :: zeros (-lead - 1).toNat ++ digits
  else
    let wholes := lead.toNat + 1
    if digits.length ≤ wholes then digits ++ zeros (wholes - digits.length) ++ ['.', '0']
    else digits.take wholes ++ '.' :: digits.drop wholes

/-- A decimal in scientific notation, with a sign in the exponent. -/
def scientificChars (digits : List Char) (lead : Int) : List Char :=
  let fraction := match digits.drop 1 with
    | [] => []
    | rest => '.' :: rest
  digits.take 1 ++ fraction ++ 'e' :: (if lead < 0 then '-' else '+') :: natChars lead.natAbs

/-- The text of a double: plain while the leading digit counts from `10 ^ -5` to `10 ^ 15`, else
scientific. -/
def doubleChars (d : Decimal.Double) : List Char :=
  let sign := if d.negative then ['-'] else []
  if d.mantissa = 0 then sign ++ ['0', '.', '0']
  else
    let (value, scale) := Decimal.shortest d
    let all := natChars value
    let lead : Int := scale + all.length - 1
    let digits := (all.reverse.dropWhile (· == '0')).reverse
    sign ++ if -5 ≤ lead ∧ lead ≤ 15 then plainChars digits lead else scientificChars digits lead

/-- The text of a number. -/
def Number.chars : Number → List Char
  | .whole n => intChars n
  | .double d => doubleChars d

/-! ## Texts -/

/-- A hexadecimal digit in lower case. -/
def hexDigit (n : Nat) : Char :=
  if n < 10 then Char.ofNat (n + 48) else Char.ofNat (n + 87)

/-- A character inside a quoted text. -/
def escapeChar (c : Char) : List Char :=
  if c = '"' then ['\\', '"']
  else if c = '\\' then ['\\', '\\']
  else if c = '\n' then ['\\', 'n']
  else if c = '\r' then ['\\', 'r']
  else if c = '\t' then ['\\', 't']
  else if c.toNat = 8 then ['\\', 'b']
  else if c.toNat = 12 then ['\\', 'f']
  else if c.toNat < 32 then
    ['\\', 'u', '0', '0', hexDigit (c.toNat / 16), hexDigit (c.toNat % 16)]
  else [c]

/-- A quoted text. -/
def quote (s : String) : List Char :=
  '"' :: (s.toList.flatMap escapeChar ++ ['"'])

/-! ## Values -/

/-- How items and members are set apart. -/
structure Style where
  /-- What stands before an item, or before a closing bracket, at the given depth. -/
  lineBreak : Nat → List Char
  /-- What stands between a member's name and its value. -/
  colon : List Char

/-- No blank anywhere. -/
def Style.compact : Style := ⟨fun _ => [], [':']⟩

/-- One item to a line, indented by `width` blanks at each depth. -/
def Style.indented (width : Nat) : Style :=
  ⟨fun depth => '\n' :: List.replicate (width * depth) ' ', [':', ' ']⟩

mutual

/-- The text of a value that stands at the given depth. -/
def render (style : Style) (depth : Nat) : Json → List Char
  | .null => ['n', 'u', 'l', 'l']
  | .bool true => ['t', 'r', 'u', 'e']
  | .bool false => ['f', 'a', 'l', 's', 'e']
  | .number n => n.chars
  | .string s => quote s
  | .array [] => ['[', ']']
  | .array (item :: rest) =>
    '[' :: (style.lineBreak (depth + 1) ++ render style (depth + 1) item ++
      renderItems style (depth + 1) rest ++ style.lineBreak depth ++ [']'])
  | .object [] => ['\x7b', '\x7d']
  | .object ((name, value) :: rest) =>
    '\x7b' :: (style.lineBreak (depth + 1) ++ quote name ++ style.colon ++
      render style (depth + 1) value ++ renderMembers style (depth + 1) rest ++
      style.lineBreak depth ++ ['\x7d'])

/-- The items after the first one, each after a comma. -/
def renderItems (style : Style) (depth : Nat) : List Json → List Char
  | [] => []
  | item :: rest =>
    ',' :: (style.lineBreak depth ++ render style depth item ++ renderItems style depth rest)

/-- The members after the first one, each after a comma. -/
def renderMembers (style : Style) (depth : Nat) : List (String × Json) → List Char
  | [] => []
  | (name, value) :: rest =>
    ',' :: (style.lineBreak depth ++ quote name ++ style.colon ++ render style depth value ++
      renderMembers style depth rest)

end

/-- The text of a value without blanks. -/
def compact (j : Json) : String :=
  String.ofList (render .compact 0 j)

/-- The text of a value with one item to a line, indented by `width` blanks at each depth. -/
def pretty (width : Nat) (j : Json) : String :=
  String.ofList (render (.indented width) 0 j)

end ApiDocs.Json
