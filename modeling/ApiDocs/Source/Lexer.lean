import ApiDocs.Source.Literal

/-!
# From text to tokens

A text is cut into pieces, which are tokens without an inside and single brackets, and the pieces
are then nested by their brackets. `tokens?` is the whole way. It fails on a character that starts
no token, on a malformed literal, and on brackets that do not match.
-/

namespace ApiDocs.Source

/-! ## Comments -/

/-- The text up to the end of the line, and the rest from the line feed on. -/
def takeLine : List Char → List Char × List Char
  | [] => ([], [])
  | c :: rest =>
    if c = '\n' then ([], c :: rest)
    else if c = '\r' ∧ rest.head? = some '\n' then ([], rest)
    else
      let (line, after) := takeLine rest
      (c :: line, after)

/-- The text of a block comment that is open `depth + 1` times, without its last closing mark, and
the rest. Block comments nest. -/
def takeBlock (depth : Nat) : List Char → Option (List Char × List Char)
  | '/' :: '*' :: rest =>
    (takeBlock (depth + 1) rest).map fun (text, after) => ('/' :: '*' :: text, after)
  | '*' :: '/' :: rest =>
    match depth with
    | 0 => some ([], rest)
    | depth + 1 => (takeBlock depth rest).map fun (text, after) => ('*' :: '/' :: text, after)
  | c :: rest => (takeBlock depth rest).map fun (text, after) => (c :: text, after)
  | [] => none

/-- Whether the text starts with a line comment that documents nothing. -/
def startsPlainLine : List Char → Bool
  | '/' :: '/' :: '/' :: '/' :: _ => true
  | '/' :: '/' :: '/' :: _ => false
  | '/' :: '/' :: '!' :: _ => false
  | '/' :: '/' :: _ => true
  | _ => false

/-- Whether the text starts with a block comment that documents nothing. -/
def startsPlainBlock : List Char → Bool
  | '/' :: '*' :: '*' :: '/' :: _ => true
  | '/' :: '*' :: '*' :: '*' :: _ => true
  | '/' :: '*' :: '*' :: _ => false
  | '/' :: '*' :: '!' :: _ => false
  | '/' :: '*' :: _ => true
  | _ => false

/-- Whether a character separates tokens: a blank or a mark of the direction of text. -/
def isSeparator (c : Char) : Bool :=
  Text.isBlank c || c == '\u200e' || c == '\u200f'

/-- Drops blanks and plain comments, at most `fuel` of them. A block comment without an end
stays. -/
def skipTrivia : Nat → List Char → List Char
  | 0, cs => cs
  | fuel + 1, cs =>
    if startsPlainLine cs then skipTrivia fuel (takeLine cs).2
    else if startsPlainBlock cs then
      match takeBlock 0 (cs.drop 2) with
      | some (_, rest) => skipTrivia fuel rest
      | none => cs
    else
      match cs with
      | [] => []
      | c :: rest => if isSeparator c then skipTrivia fuel rest else cs

/-- Whether every carriage return is followed by a line feed. -/
def returnsEndLines : List Char → Bool
  | [] => true
  | c :: rest => (c != '\r' || rest.head? == some '\n') && returnsEndLines rest

/-- A documentation comment: whether it documents what it stands in, its text, and the rest. -/
def readDocComment : List Char → Option (Bool × List Char × List Char)
  | '/' :: '/' :: '!' :: rest => some (true, takeLine rest)
  | '/' :: '*' :: '!' :: rest => (takeBlock 0 rest).map fun read => (true, read)
  | '/' :: '/' :: '/' :: rest => some (false, takeLine rest)
  | '/' :: '*' :: '*' :: rest => (takeBlock 0 rest).map fun read => (false, read)
  | _ => none

/-! ## Pieces -/

/-- A piece of a text: a bracket, or tokens without an inside. -/
inductive Piece where
  /-- An opening bracket. -/
  | opening (d : Delimiter)
  /-- A closing bracket. -/
  | closing (d : Delimiter)
  /-- Complete tokens. -/
  | leaf (tokens : List Token)

/-- The characters that are punctuation marks. -/
def markChars : List Char := "~!@#$%^&*-=+|;:,<.>/?'".toList

/-- Whether a punctuation mark comes first, the start of a comment not counted. -/
def startsMark : List Char → Bool
  | '/' :: '/' :: _ => false
  | '/' :: '*' :: _ => false
  | c :: _ => markChars.contains c
  | [] => false

/-- The words that may not be written after `r#`. -/
def neverRaw : List String := ["_", "super", "self", "Self", "crate"]

/-- Reads a word that is written raw or not. -/
def readWordAs (raw : Bool) (cs : List Char) : Option (Word × List Char) :=
  match h : takeWord cs with
  | some (text, rest) => some (⟨String.ofList text, raw, takeWord_isIdentifier h⟩, rest)
  | none => none

/-- Reads a word, maybe raw. -/
def readWord : List Char → Option (Word × List Char)
  | 'r' :: '#' :: rest => do
    let (w, rest) ← readWordAs true rest
    if neverRaw.contains w.text then none else some (w, rest)
  | cs => readWordAs false cs

/-- The starts of quoted literals, which are no words. -/
def quotedStarts : List (List Char) :=
  ["r\"", "r#\"", "r##", "b\"", "b'", "br\"", "br#", "c\"", "cr\"", "cr#"].map String.toList

/-- Whether the text starts as a quoted literal with a letter before its quote. -/
def startsQuoted (cs : List Char) : Bool :=
  quotedStarts.any (·.isPrefixOf cs)

/-- Reads a lifetime after its quote. Another quote may not follow, nor a hash unless the name is
raw. -/
def readLifetime (cs : List Char) : Option (Token × List Char) := do
  let (name, rest) ← readWord cs
  if rest.head? = some '\'' then none
  else if rest.head? = some '#' && !name.raw then none
  else if startsQuoted cs then some (.mark '\'' true, cs)
  else some (.lifetime name.text, rest)

/-- Reads a punctuation mark or a lifetime. -/
def readMark (cs : List Char) : Option (Token × List Char) :=
  if startsMark cs then
    match cs with
    | [] => none
    | '\'' :: rest => readLifetime rest
    | c :: rest => some (.mark c (startsMark rest), rest)
  else none

/-- Reads a token without an inside: a literal, a punctuation mark, or a word. -/
def readLeaf (cs : List Char) : Option (Token × List Char) :=
  match readLiteral cs with
  | some (l, rest) => some (.literal l, rest)
  | none =>
    match readMark cs with
    | some read => some read
    | none =>
      if startsQuoted cs then none
      else (readWord cs).map fun (w, rest) => (.word w, rest)

/-- Reads a piece from a text that starts with no blank and no plain comment. -/
def readPiece (cs : List Char) : Option (Piece × List Char) :=
  match cs with
  | '(' :: rest => some (.opening .paren, rest)
  | '[' :: rest => some (.opening .bracket, rest)
  | '\x7b' :: rest => some (.opening .brace, rest)
  | ')' :: rest => some (.closing .paren, rest)
  | ']' :: rest => some (.closing .bracket, rest)
  | '\x7d' :: rest => some (.closing .brace, rest)
  | _ =>
    match readDocComment cs with
    | some (inner, text, rest) =>
      if returnsEndLines text then some (.leaf (Token.ofDocComment inner text), rest) else none
    | none => (readLeaf cs).map fun (t, rest) => (.leaf [t], rest)

/-- Cuts a text into at most `fuel` pieces; `acc` holds those before it, last one first. -/
def readPieces : Nat → List Piece → List Char → Option (List Piece)
  | 0, _, _ => none
  | fuel + 1, acc, cs =>
    match skipTrivia fuel cs with
    | [] => some acc.reverse
    | c :: rest =>
      match readPiece (c :: rest) with
      | some (piece, rest) => readPieces fuel (piece :: acc) rest
      | none => none

/-! ## Nesting -/

/-- Nests pieces by their brackets. `row` holds the tokens of the innermost open group, last one
first, and `stack` those of the groups around it with the bracket that opened the inner one. -/
def nest (row : List Token) (stack : List (Delimiter × List Token)) :
    List Piece → Option (List Token)
  | [] => if stack.isEmpty then some row.reverse else none
  | .leaf tokens :: rest => nest (tokens.reverse ++ row) stack rest
  | .opening d :: rest => nest [] ((d, row) :: stack) rest
  | .closing d :: rest =>
    match stack with
    | [] => none
    | (opened, outer) :: stack =>
      if opened = d then nest (.group d row.reverse :: outer) stack rest else none

/-- The tokens of a text. -/
def tokens? (cs : List Char) : Option (List Token) :=
  (readPieces (cs.length + 2) [] cs).bind (nest [] [])

/-! ## Whole files -/

/-- Drops a byte order mark. -/
def dropByteOrderMark : List Char → List Char
  | '\ufeff' :: rest => rest
  | cs => cs

/-- Drops a first line that names an interpreter: one that starts with `#!` which opens no
attribute. -/
def dropInterpreterLine (cs : List Char) : List Char :=
  match cs with
  | '#' :: '!' :: rest =>
    if (skipTrivia rest.length rest).head? = some '[' then cs else cs.dropWhile (· != '\n')
  | _ => cs

/-- The tokens of a source file. -/
def fileTokens? (text : String) : Option (List Token) :=
  tokens? (dropByteOrderMark (dropInterpreterLine (dropByteOrderMark text.toList)))

end ApiDocs.Source
