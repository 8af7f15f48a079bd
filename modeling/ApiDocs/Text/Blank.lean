/-!
# Blanks, words and lines

White space is the Unicode property `White_Space`. On it rest the trimming of a text, its division
into words, and its division into lines.
-/

namespace ApiDocs.Text

/-! ## White space -/

/-- The white-space characters. -/
def isBlank (c : Char) : Bool :=
  let n := c.toNat
  (0x9 ≤ n && n ≤ 0xd) || n == 0x20 || n == 0x85 || n == 0xa0 || n == 0x1680 ||
    (0x2000 ≤ n && n ≤ 0x200a) || n == 0x2028 || n == 0x2029 || n == 0x202f || n == 0x205f ||
    n == 0x3000

/-! ## Trimming -/

/-- Drops the longest end of `cs` on which `p` holds. -/
def dropEndWhile (p : Char → Bool) (cs : List Char) : List Char :=
  (cs.reverse.dropWhile p).reverse

/-- Drops the characters with `p` from both ends. -/
def stripWhile (p : Char → Bool) (cs : List Char) : List Char :=
  dropEndWhile p (cs.dropWhile p)

/-- Drops the white space at both ends. -/
def trimChars (cs : List Char) : List Char :=
  stripWhile isBlank cs

/-- Drops the white space at both ends of a text. -/
def trim (s : String) : String :=
  String.ofList (trimChars s.toList)

/-! ## Division -/

/-- Cuts `cs` at every character with `p`, which belongs to no piece; `n` cuts make `n + 1`
pieces. -/
def cutAt (p : Char → Bool) : List Char → List (List Char)
  | [] => [[]]
  | c :: rest =>
    if p c then [] :: cutAt p rest
    else
      match cutAt p rest with
      | [] => [[c]]
      | piece :: more => (c :: piece) :: more

/-- The maximal pieces of a text without white space. -/
def words (cs : List Char) : List (List Char) :=
  (cutAt isBlank cs).filter fun w => !w.isEmpty

/-- Drops a carriage return at the end. -/
def dropReturn (line : List Char) : List Char :=
  match line.getLast? with
  | some '\r' => line.dropLast
  | _ => line

/-- The lines of a text given its pieces between line feeds. What follows the last line feed is
a line only if it is not empty, and keeps a carriage return at its end. -/
def linesOfPieces : List (List Char) → List (List Char)
  | [] => []
  | [last] => if last.isEmpty then [] else [last]
  | line :: rest => dropReturn line :: linesOfPieces rest

/-- The lines of a text, without the line feed, or carriage return and line feed, that ends
them. -/
def lines (s : String) : List String :=
  (linesOfPieces (cutAt (· == '\n') s.toList)).map String.ofList

/-! ## Parts of a text -/

/-- Whether `part` stands in `cs` as an uninterrupted piece. -/
def hasPart (part : List Char) : List Char → Bool
  | [] => part.isEmpty
  | c :: rest => part.isPrefixOf (c :: rest) || hasPart part rest

/-- Whether the text `part` stands in `s` as an uninterrupted piece. -/
def mentions (s part : String) : Bool :=
  hasPart part.toList s.toList

end ApiDocs.Text
