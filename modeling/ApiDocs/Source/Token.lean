import ApiDocs.Text.Blank
import ApiDocs.Text.Identifier

/-!
# Tokens of a source file

A source file is a row of token trees: words, punctuation marks, literals, and groups of tokens
between matching brackets. Comments and blanks are no tokens, except that a documentation comment
stands for the attribute it abbreviates.
-/

namespace ApiDocs.Source

/-- The brackets around a group. -/
inductive Delimiter where
  /-- `(` and `)` -/
  | paren
  /-- `[` and `]` -/
  | bracket
  /-- `{` and `}` -/
  | brace
  deriving DecidableEq

/-- What a literal denotes, as far as it matters here. -/
inductive LiteralKind where
  /-- A text. -/
  | string (value : String)
  /-- A whole number and the suffix written after its digits. -/
  | integer (value : Nat) (suffix : String)
  /-- A number with a point or an exponent. -/
  | float
  /-- A character, a byte, or a text of bytes. -/
  | other
  deriving DecidableEq

/-- A literal: its text as written and what it denotes. -/
structure Literal where
  /-- The text as written. -/
  text : String
  /-- What it denotes. -/
  kind : LiteralKind
  deriving DecidableEq

/-- A word. A raw word is written after `r#` and is never a keyword. -/
structure Word where
  /-- Its text, without `r#`. -/
  text : String
  /-- Whether it is written raw. -/
  raw : Bool := false
  /-- Its text is an identifier. -/
  valid : Text.isIdentifier text = true
  deriving DecidableEq

/-- A token tree. -/
inductive Token where
  /-- A word. -/
  | word (w : Word)
  /-- A word after a single quote, which names a lifetime or a label. -/
  | lifetime (name : String)
  /-- A punctuation mark; `joint` if another one follows at once. -/
  | mark (char : Char) (joint : Bool)
  /-- A literal. -/
  | literal (l : Literal)
  /-- Tokens between brackets. -/
  | group (delimiter : Delimiter) (inner : List Token)

namespace Token

/-- The attribute that a documentation comment abbreviates. -/
def ofDocComment (inner : Bool) (text : List Char) : List Token :=
  let value := String.ofList text
  let note := Token.group .bracket
    [.word ⟨"doc", false, rfl⟩, .mark '=' false, .literal ⟨value, .string value⟩]
  if inner then [.mark '#' false, .mark '!' false, note] else [.mark '#' false, note]

mutual

/-- Whether a word or a literal of the token contains `part`. -/
def mentions (part : String) : Token → Bool
  | .word w => Text.mentions w.text part
  | .lifetime name => Text.mentions name part
  | .mark _ _ => false
  | .literal l => Text.mentions l.text part
  | .group _ inner => anyMentions part inner

/-- Whether a word or a literal of one of the tokens contains `part`. -/
def anyMentions (part : String) : List Token → Bool
  | [] => false
  | t :: rest => t.mentions part || anyMentions part rest

end

mutual

/-- How many tokens a token tree has. -/
def count : Token → Nat
  | .group _ inner => 1 + countAll inner
  | _ => 1

/-- How many tokens a row of token trees has. -/
def countAll : List Token → Nat
  | [] => 0
  | t :: rest => t.count + countAll rest

end

end Token

end ApiDocs.Source
