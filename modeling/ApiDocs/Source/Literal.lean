import ApiDocs.Source.Token

/-!
# Literals

Reading a literal from the front of a source text. Each reader gives the literal's kind and the
characters after it, or nothing if no well-formed literal of its class stands there.
-/

namespace ApiDocs.Source

/-! ## Words and suffixes -/

/-- Takes a word without looking for a raw mark. -/
def takeWord : List Char → Option (List Char × List Char)
  | [] => none
  | c :: rest =>
    if Text.isIdentifierStart c then
      some (c :: rest.takeWhile Text.isIdentifierPart, rest.dropWhile Text.isIdentifierPart)
    else none

/-- A word that is taken is an identifier. -/
theorem takeWord_isIdentifier {cs text rest : List Char} (h : takeWord cs = some (text, rest)) :
    Text.isIdentifier (String.ofList text) = true := by
  unfold takeWord at h
  split at h
  · cases h
  · split at h
    · rename_i hstart
      cases h
      simp [Text.isIdentifier, hstart, List.all_takeWhile]
    · cases h

/-- Drops the suffix of a literal. -/
def dropSuffix (cs : List Char) : List Char :=
  match takeWord cs with
  | some (_, rest) => rest
  | none => cs

/-- The value of a hexadecimal digit. -/
def hexDigit? (c : Char) : Option Nat :=
  if '0' ≤ c ∧ c ≤ '9' then some (c.toNat - 48)
  else if 'a' ≤ c ∧ c ≤ 'f' then some (c.toNat - 87)
  else if 'A' ≤ c ∧ c ≤ 'F' then some (c.toNat - 55)
  else none

/-! ## Texts with escapes -/

/-- What a class of quoted texts allows. -/
structure QuoteRules where
  /-- Whether `\u` escapes and characters beyond ASCII may occur. -/
  wide : Bool
  /-- Whether a character may be zero. -/
  zero : Bool
  /-- The greatest value of a `\x` escape. -/
  maxHex : Nat

/-- Texts of characters. -/
def textRules : QuoteRules := ⟨true, true, 0x7f⟩

/-- Texts of bytes. -/
def byteRules : QuoteRules := ⟨false, true, 0xff⟩

/-- Texts that end with a zero byte when compiled. -/
def zeroEndedRules : QuoteRules := ⟨true, false, 0xff⟩

/-- Where a reader of a quoted text is. -/
inductive QuoteState where
  /-- Between characters. -/
  | text
  /-- After a carriage return. -/
  | carriage
  /-- After a backslash. -/
  | escape
  /-- After `\x`. -/
  | hex
  /-- After `\x` and one digit. -/
  | hexNext (high : Nat)
  /-- After `\u`. -/
  | unicode
  /-- After `\u{` and some digits. -/
  | unicodeDigits (count value : Nat)
  /-- In the blanks after a backslash at the end of a line, maybe after a carriage return. -/
  | gap (carriage : Bool)

/-- What one more character does. -/
inductive QuoteStep where
  /-- It ends the text. -/
  | close
  /-- It leads to a state, and may complete a character. -/
  | go (state : QuoteState) (char : Option Char)
  /-- It may not stand here. -/
  | fail

/-- A character between others. -/
def QuoteRules.plain (rules : QuoteRules) (c : Char) : QuoteStep :=
  if c = '"' then .close
  else if c = '\r' then .go .carriage none
  else if c = '\\' then .go .escape none
  else if c.toNat = 0 ∧ !rules.zero then .fail
  else if 128 ≤ c.toNat ∧ !rules.wide then .fail
  else .go .text (some c)

/-- A character after a backslash. -/
def QuoteRules.escaped (rules : QuoteRules) (c : Char) : QuoteStep :=
  match c with
  | 'n' => .go .text (some '\n')
  | 'r' => .go .text (some '\r')
  | 't' => .go .text (some '\t')
  | '\\' => .go .text (some '\\')
  | '\'' => .go .text (some '\'')
  | '"' => .go .text (some '"')
  | '0' => if rules.zero then .go .text (some (Char.ofNat 0)) else .fail
  | 'x' => .go .hex none
  | 'u' => if rules.wide then .go .unicode none else .fail
  | '\n' => .go (.gap false) none
  | '\r' => .go (.gap true) none
  | _ => .fail

/-- A completed `\x` escape. -/
def QuoteRules.hexChar (rules : QuoteRules) (value : Nat) : QuoteStep :=
  if rules.maxHex < value then .fail
  else if value = 0 ∧ !rules.zero then .fail
  else .go .text (some (Char.ofNat value))

/-- A completed `\u` escape. -/
def QuoteRules.unicodeChar (rules : QuoteRules) (value : Nat) : QuoteStep :=
  if value.isValidChar then
    if value = 0 ∧ !rules.zero then .fail else .go .text (some (Char.ofNat value))
  else .fail

/-- A character inside the braces of a `\u` escape: at most six digits, with underscores after the
first. -/
def QuoteRules.unicodeDigit (rules : QuoteRules) (count value : Nat) (c : Char) : QuoteStep :=
  match hexDigit? c with
  | some d => if count = 6 then .fail else .go (.unicodeDigits (count + 1) (value * 16 + d)) none
  | none =>
    if count = 0 then .fail
    else if c = '_' then .go (.unicodeDigits count value) none
    else if c = '\x7d' then rules.unicodeChar value
    else .fail

/-- One step of reading a quoted text. -/
def QuoteRules.step (rules : QuoteRules) (state : QuoteState) (c : Char) : QuoteStep :=
  match state with
  | .text => rules.plain c
  | .carriage => if c = '\n' then .go .text (some '\n') else .fail
  | .escape => rules.escaped c
  | .hex =>
    match hexDigit? c with
    | some d => .go (.hexNext d) none
    | none => .fail
  | .hexNext high =>
    match hexDigit? c with
    | some d => rules.hexChar (high * 16 + d)
    | none => .fail
  | .unicode => if c = '\x7b' then .go (.unicodeDigits 0 0) none else .fail
  | .unicodeDigits count value => rules.unicodeDigit count value c
  | .gap true => if c = '\n' then .go (.gap false) none else .fail
  | .gap false =>
    if c = ' ' ∨ c = '\t' ∨ c = '\n' then .go (.gap false) none
    else if c = '\r' then .go (.gap true) none
    else rules.plain c

/-- Reads a quoted text after its opening quote: its value and what follows the closing quote.
`acc` holds the characters read so far, last one first. -/
def readQuoted (rules : QuoteRules) (state : QuoteState) (acc : List Char) :
    List Char → Option (List Char × List Char)
  | [] => none
  | c :: rest =>
    match rules.step state c with
    | .close => some (acc.reverse, rest)
    | .go next (some char) => readQuoted rules next (char :: acc) rest
    | .go next none => readQuoted rules next acc rest
    | .fail => none

/-! ## Raw texts -/

/-- Reads a raw text after its opening quote, up to a quote followed by `hashes`. -/
def readRaw (allowed : Char → Bool) (hashes acc : List Char) :
    List Char → Option (List Char × List Char)
  | [] => none
  | c :: rest =>
    if c = '"' && hashes.isPrefixOf rest then some (acc.reverse, rest.drop hashes.length)
    else if c = '\r' then
      match rest with
      | '\n' :: rest => readRaw allowed hashes ('\n' :: '\r' :: acc) rest
      | _ => none
    else if allowed c then readRaw allowed hashes (c :: acc) rest
    else none

/-- Reads a raw text after its letters: hashes, a quote, and the text. -/
def readHashed (allowed : Char → Bool) (cs : List Char) : Option (List Char × List Char) :=
  let hashes := cs.takeWhile (· == '#')
  match cs.dropWhile (· == '#') with
  | '"' :: rest => if 255 < hashes.length then none else readRaw allowed hashes [] rest
  | _ => none

/-! ## Characters and bytes -/

/-- The states in which a single quoted character is complete after one more character. -/
def readEscapedChar (rules : QuoteRules) (state : QuoteState) : List Char → Option (List Char)
  | [] => none
  | c :: rest =>
    match rules.step state c with
    | .go (.gap _) _ => none
    | .go _ (some _) => some rest
    | .go next none => readEscapedChar rules next rest
    | _ => none

/-- Reads a character after its opening quote, closing quote included. -/
def readChar (rules : QuoteRules) (cs : List Char) : Option (List Char) :=
  let after := match cs with
    | [] => none
    | '\\' :: rest => readEscapedChar rules .escape rest
    | c :: rest => if 128 ≤ c.toNat && !rules.wide then none else some rest
  match after with
  | some ('\'' :: rest) => some (dropSuffix rest)
  | _ => none

/-! ## Numbers -/

/-- Whether a word character follows. -/
def continuesWord : List Char → Bool
  | [] => false
  | c :: _ => Text.isIdentifierPart c

/-- Drops a suffix after digits; what follows must not go on as a word. -/
def endNumber (cs : List Char) : Option (List Char) :=
  let rest := dropSuffix cs
  if continuesWord rest then none else some rest

/-- The digits of a number with a point or an exponent, up to its exponent: whether a point and
whether an exponent letter was read, and the rest. A point may not be followed by another one or by
a word. -/
def floatBody (point : Bool) : List Char → Option (Bool × Bool × List Char)
  | [] => some (point, false, [])
  | c :: rest =>
    if c.isDigit || c == '_' then floatBody point rest
    else if c = '.' then
      if point then some (point, false, c :: rest)
      else
        match rest with
        | [] => some (true, false, [])
        | next :: _ =>
          if next = '.' ∨ Text.isIdentifierStart next then none else floatBody true rest
    else if c = 'e' ∨ c = 'E' then some (point, true, rest)
    else some (point, false, c :: rest)

/-- The digits of an exponent, with a sign before them and underscores anywhere; nothing if there
is no digit or a second sign. -/
def exponentDigits (sign value : Bool) : List Char → Option (List Char)
  | [] => if value then some [] else none
  | c :: rest =>
    if c = '+' ∨ c = '-' then
      if value then some (c :: rest)
      else if sign then none
      else exponentDigits true value rest
    else if c.isDigit then exponentDigits sign true rest
    else if c = '_' then exponentDigits sign value rest
    else if value then some (c :: rest)
    else none

/-- The rest after the digits of a number with a point or an exponent. An exponent without digits
is left as a suffix, if there was a point. -/
def floatDigits (cs : List Char) : Option (List Char) :=
  match cs with
  | [] => none
  | c :: rest =>
    if !c.isDigit then none
    else
      match floatBody false rest with
      | none => none
      | some (point, false, rest) => if point then some rest else none
      | some (point, true, rest) =>
        match exponentDigits false false rest with
        | some rest => some rest
        | none =>
          -- the exponent letter is the last character before `rest`
          if point then some (cs.drop (cs.length - rest.length - 1)) else none

/-- Reads a number with a point or an exponent. -/
def readFloat (cs : List Char) : Option (List Char) :=
  (floatDigits cs).bind endNumber

/-- Reads digits to a base: the value and the rest. A decimal digit that is too large for the base
may not occur. -/
def baseDigits (base : Nat) (seen : Bool) (value : Nat) : List Char → Option (Nat × List Char)
  | [] => if seen then some (value, []) else none
  | c :: rest =>
    if c = '_' then if !seen && base == 10 then none else baseDigits base seen value rest
    else
      match hexDigit? c with
      | some d =>
        if d < base then baseDigits base true (value * base + d) rest
        else if d < 10 then none
        else if seen then some (value, c :: rest)
        else none
      | none => if seen then some (value, c :: rest) else none

/-- Reads a whole number: its kind and the rest. -/
def readInteger (cs : List Char) : Option (LiteralKind × List Char) := do
  let (value, rest) ← match cs with
    | '0' :: 'x' :: rest => baseDigits 16 false 0 rest
    | '0' :: 'o' :: rest => baseDigits 8 false 0 rest
    | '0' :: 'b' :: rest => baseDigits 2 false 0 rest
    | _ => baseDigits 10 false 0 cs
  let suffix := (takeWord rest).elim [] Prod.fst
  let rest ← endNumber rest
  return (.integer value (String.ofList suffix), rest)

/-! ## Any literal -/

/-- A literal of an unnamed kind. -/
def otherKind (rest : Option (List Char)) : Option (LiteralKind × List Char) :=
  rest.map fun rest => (.other, rest)

/-- A text with a value, and its suffix dropped. -/
def stringKind (read : Option (List Char × List Char)) : Option (LiteralKind × List Char) :=
  read.map fun (value, rest) => (.string (String.ofList value), dropSuffix rest)

/-- A text of bytes, and its suffix dropped. -/
def bytesKind (read : Option (List Char × List Char)) : Option (LiteralKind × List Char) :=
  read.map fun (_, rest) => (.other, dropSuffix rest)

/-- Reads the kind of a literal and the rest. -/
def readKind (cs : List Char) : Option (LiteralKind × List Char) :=
  match cs with
  | '"' :: rest => stringKind (readQuoted textRules .text [] rest)
  | 'r' :: rest => stringKind (readHashed (fun _ => true) rest)
  | 'b' :: '"' :: rest => bytesKind (readQuoted byteRules .text [] rest)
  | 'b' :: 'r' :: rest => bytesKind (readHashed (fun c => c.toNat < 128) rest)
  | 'c' :: '"' :: rest => bytesKind (readQuoted zeroEndedRules .text [] rest)
  | 'c' :: 'r' :: rest => bytesKind (readHashed (fun c => c.toNat ≠ 0) rest)
  | 'b' :: '\'' :: rest => otherKind (readChar byteRules rest)
  | '\'' :: rest => otherKind (readChar textRules rest)
  | _ =>
    match readFloat cs with
    | some rest => some (.float, rest)
    | none => readInteger cs

/-- Reads a literal and the rest. -/
def readLiteral (cs : List Char) : Option (Literal × List Char) := do
  let (kind, rest) ← readKind cs
  return (⟨String.ofList (cs.take (cs.length - rest.length)), kind⟩, rest)

end ApiDocs.Source
