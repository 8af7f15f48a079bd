import ApiDocs.Text.Identifier

/-!
# Word characters

A word character is a letter, a mark, a decimal digit, a connector such as the underscore, or one
of the two joiners. Beyond ASCII these are the identifier characters up to the two short lists
below.
-/

namespace ApiDocs.Text

/-- The identifier characters that are no word characters. -/
def unworded : List CodeRun :=
  [⟨0xb7, 0xb7, 1⟩, ⟨0x387, 0x387, 1⟩, ⟨0x1369, 0x1371, 1⟩, ⟨0x19da, 0x19da, 1⟩,
   ⟨0x2118, 0x2118, 1⟩, ⟨0x212e, 0x212e, 1⟩, ⟨0x30fb, 0x30fb, 1⟩, ⟨0xff65, 0xff65, 1⟩]

/-- The word characters that no identifier may hold. -/
def wordedOnly : List CodeRun :=
  [⟨0x37a, 0x37a, 1⟩, ⟨0x488, 0x489, 1⟩, ⟨0x1abe, 0x1abe, 1⟩, ⟨0x20dd, 0x20e0, 1⟩,
   ⟨0x20e2, 0x20e4, 1⟩, ⟨0x24b6, 0x24e9, 1⟩, ⟨0x2e2f, 0x2e2f, 1⟩, ⟨0xa670, 0xa672, 1⟩,
   ⟨0xfc5e, 0xfc63, 1⟩, ⟨0xfdfa, 0xfdfb, 1⟩, ⟨0xfe70, 0xfe7e, 2⟩, ⟨0x1f130, 0x1f149, 1⟩,
   ⟨0x1f150, 0x1f169, 1⟩, ⟨0x1f170, 0x1f189, 1⟩]

/-- Whether `c` is a word character. -/
def isWord (c : Char) : Bool :=
  if c.toNat < 128 then c.isAlphanum || c == '_'
  else (isIdentifierPart c && !inRuns unworded c) || inRuns wordedOnly c

end ApiDocs.Text
