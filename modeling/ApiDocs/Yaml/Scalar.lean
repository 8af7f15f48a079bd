import ApiDocs.Yaml.Reserved

/-!
# Texts in YAML

A text is written plain where nothing can be mistaken, else between single quotes; one with control
characters between double quotes. A text of several lines is written as a block below its key.
-/

namespace ApiDocs.Yaml

/-! ## Characters -/

/-- The characters that break a line. -/
def isBreak (c : Char) : Bool :=
  c == '\n' || c == '\r' || c == '\u0085' || c == '\u2028' || c == '\u2029'

/-- Whether blank space or nothing stands at a place. -/
def isGap : Option Char → Bool
  | none => true
  | some c => c == ' ' || c == '\t' || c == '\x00' || isBreak c

/-- The characters that need no escape. -/
def isPrintable (c : Char) : Bool :=
  let n := c.toNat
  n == 0xa || (0x20 ≤ n && n ≤ 0x7e)
    || (0xa0 ≤ n && n != 0xfeff && n != 0xfffe && n != 0xffff)

/-- The characters that mean something at the front of a value. -/
def indicators : List Char := "#,[]\x7b\x7d&*!|>'\"%@\x60".toList

/-- The characters that mean something at the front of a value if a gap follows. -/
def gapIndicators : List Char := ['?', ':', '-']

/-! ## What a text allows -/

/-- Whether the front of a text means something. -/
def hasLeadingIndicator : List Char → Bool
  | [] => false
  | c :: rest =>
    indicators.contains c || (gapIndicators.contains c && isGap rest.head?)
      || "---".toList.isPrefixOf (c :: rest) || "...".toList.isPrefixOf (c :: rest)

/-- Whether the mark of a key or of a comment stands somewhere after the character `before`. -/
def hasInnerIndicator (before : Char) : List Char → Bool
  | [] => false
  | c :: rest =>
    (c == ':' && isGap rest.head?) || (c == '#' && isGap (some before))
      || hasInnerIndicator c rest

/-- Whether the characters `p` and `q` stand next to each other somewhere. -/
def hasPair (p q : Char → Bool) : List Char → Bool
  | [] => false
  | c :: rest => (p c && rest.head?.any q) || hasPair p q rest

/-- Whether a character is a space. -/
def isSpace (c : Char) : Bool := c == ' '

/-- Whether a text can stand between single quotes. -/
def allowsSingle (cs : List Char) : Bool :=
  cs.all isPrintable && !hasPair isSpace isBreak cs && !hasPair isBreak isSpace cs

/-- Whether a text can stand without quotes. -/
def allowsPlain (cs : List Char) : Bool :=
  cs.all isPrintable && !cs.any isBreak && !cs.head?.any isSpace && !cs.getLast?.any isSpace
    && !hasLeadingIndicator cs
    && (match cs with
      | [] => true
      | c :: rest => !hasInnerIndicator c rest)

/-- Whether a text can be written as a block. -/
def allowsBlock (cs : List Char) : Bool :=
  cs.all isPrintable && !cs.getLast?.any isSpace && !hasPair isSpace isBreak cs

/-! ## Styles -/

/-- How a text is written. -/
inductive Style where
  /-- As it is. -/
  | plain
  /-- Between single quotes. -/
  | single
  /-- Between double quotes. -/
  | double
  /-- As a block of lines. -/
  | block
  deriving DecidableEq

/-- The style of a text on one line that cannot stand without quotes. -/
def quotedStyle (cs : List Char) : Style :=
  if allowsSingle cs then .single else .double

/-- The style of a text on one line. -/
def inlineStyle (s : String) : Style :=
  if isReserved s || !allowsPlain s.toList then quotedStyle s.toList else .plain

/-- The style of a text. -/
def styleOf (s : String) : Style :=
  if s.toList.contains '\n' then (if allowsBlock s.toList then .block else .double)
  else inlineStyle s

/-! ## Writing -/

/-- `n` spaces. -/
def spaces (n : Nat) : List Char :=
  List.replicate n ' '

/-- Text between single quotes: a quote is doubled, and what follows a line break is indented;
`fresh` says that a break stands before. -/
def singleChars (indent : Nat) (fresh : Bool) : List Char → List Char
  | [] => if fresh then spaces indent else []
  | c :: rest =>
    if isBreak c then c :: singleChars indent true rest
    else
      (if fresh then spaces indent else []) ++ (if c = '\x27' then [c, c] else [c])
        ++ singleChars indent false rest

/-- The characters that have an escape of one letter. -/
def shortEscapes : List (Nat × Char) :=
  [(0, '0'), (7, 'a'), (8, 'b'), (9, 't'), (0xa, 'n'), (0xb, 'v'), (0xc, 'f'), (0xd, 'r'),
    (0x1b, 'e'), (0x22, '"'), (0x5c, '\\'), (0x85, 'N'), (0xa0, '_'), (0x2028, 'L'),
    (0x2029, 'P')]

/-- The last `width` hexadecimal digits of a number, in capitals. -/
def hexDigits (n : Nat) : Nat → List Char
  | 0 => []
  | width + 1 =>
    let d := n % 16
    hexDigits (n / 16) width ++ [Char.ofNat (if d < 10 then d + 48 else d + 55)]

/-- An escaped character. -/
def escape (c : Char) : List Char :=
  let n := c.toNat
  match shortEscapes.lookup n with
  | some letter => ['\\', letter]
  | none =>
    if n ≤ 0xff then '\\' :: 'x' :: hexDigits n 2
    else if n ≤ 0xffff then '\\' :: 'u' :: hexDigits n 4
    else '\\' :: 'U' :: hexDigits n 8

/-- A character between double quotes. -/
def doubleChar (c : Char) : List Char :=
  if !isPrintable c || isBreak c || c == '"' || c == '\\' then escape c else [c]

/-- What stands after the bar of a block: the indent, where the first line hides it, and how the
breaks at the end are kept. -/
def blockHints (cs : List Char) : List Char :=
  let hidden := cs.head?.any fun c => isSpace c || isBreak c
  let chomp := match cs.reverse with
    | [] => ['-']
    | [last] => if isBreak last then ['+'] else ['-']
    | last :: before :: _ =>
      if !isBreak last then ['-'] else if isBreak before then ['+'] else []
  (if hidden then ['2'] else []) ++ chomp

/-- The lines of a block: each that is not empty is indented. `fresh` says that a break stands
before. -/
def blockChars (indent : Nat) (fresh : Bool) : List Char → List Char
  | [] => if fresh then [] else ['\n']
  | c :: rest =>
    if isBreak c then c :: blockChars indent true rest
    else (if fresh then spaces indent else []) ++ c :: blockChars indent false rest

/-- A text in a style, and the end of its last line. Lines after the first are indented. -/
def styled (indent : Nat) (style : Style) (cs : List Char) : List Char :=
  match style with
  | .plain => cs ++ ['\n']
  | .single => '\x27' :: (singleChars indent false cs ++ ['\x27', '\n'])
  | .double => '"' :: (cs.flatMap doubleChar ++ ['"', '\n'])
  | .block => '|' :: (blockHints cs ++ '\n' :: blockChars indent true cs)

/-- A text and the end of its last line. -/
def textLines (indent : Nat) (s : String) : List Char :=
  styled indent (styleOf s) s.toList

end ApiDocs.Yaml
