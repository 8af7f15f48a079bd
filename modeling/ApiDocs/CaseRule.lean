import ApiDocs.Text.Letter
import ApiDocs.Text.Lowercase

/-!
# Case rules

Conventions for the names under which the fields of a structure and the variants of an enumeration
are written out. Field names are taken to be in snake case and variant names in Pascal case.
-/

namespace ApiDocs

/-- A case convention. -/
inductive CaseRule where
  /-- `lowercase` -/
  | lower
  /-- `UPPERCASE` -/
  | upper
  /-- `PascalCase` -/
  | pascal
  /-- `camelCase` -/
  | camel
  /-- `snake_case` -/
  | snake
  /-- `SCREAMING_SNAKE_CASE` -/
  | screamingSnake
  /-- `kebab-case` -/
  | kebab
  /-- `SCREAMING-KEBAB-CASE` -/
  | screamingKebab
  deriving DecidableEq

namespace CaseRule

/-- The rule with the given name. -/
def ofName? (text : String) : Option CaseRule :=
  match text with
  | "lowercase" => some lower
  | "UPPERCASE" => some upper
  | "PascalCase" => some pascal
  | "camelCase" => some camel
  | "snake_case" => some snake
  | "SCREAMING_SNAKE_CASE" => some screamingSnake
  | "kebab-case" => some kebab
  | "SCREAMING-KEBAB-CASE" => some screamingKebab
  | _ => none

/-- Writes the first character in lower case. -/
def lowerFirst : List Char → List Char
  | [] => []
  | c :: rest => Text.lowerChar c ++ rest

/-- Drops underscores and capitalizes the letter after each of them; `start` holds if one comes
before. -/
def joinWords (start : Bool) : List Char → List Char
  | [] => []
  | c :: rest =>
    if c = '_' then joinWords true rest
    else (if start then Text.asciiUpper c else c) :: joinWords false rest

/-- Writes an underscore before every upper-case letter, and the ASCII letters in lower case. -/
def splitWords : List Char → List Char
  | [] => []
  | c :: rest =>
    if Text.isUppercase c then '_' :: Text.asciiLower c :: splitWords rest
    else Text.asciiLower c :: splitWords rest

/-- A variant name in snake case. -/
def snakeVariant : List Char → List Char
  | [] => []
  | c :: rest => Text.asciiLower c :: splitWords rest

/-- Writes hyphens for underscores. -/
def hyphens (cs : List Char) : List Char :=
  cs.map fun c => if c = '_' then '-' else c

/-- Applies a rule to a field name. -/
def onFieldChars (rule : CaseRule) (cs : List Char) : List Char :=
  match rule with
  | lower | snake => cs
  | upper | screamingSnake => cs.map Text.asciiUpper
  | pascal => joinWords true cs
  | camel => lowerFirst (joinWords true cs)
  | kebab => hyphens cs
  | screamingKebab => hyphens (cs.map Text.asciiUpper)

/-- Applies a rule to a variant name. -/
def onVariantChars (rule : CaseRule) (cs : List Char) : List Char :=
  match rule with
  | pascal => cs
  | lower => cs.map Text.asciiLower
  | upper => cs.map Text.asciiUpper
  | camel => lowerFirst cs
  | snake => snakeVariant cs
  | screamingSnake => (snakeVariant cs).map Text.asciiUpper
  | kebab => hyphens (snakeVariant cs)
  | screamingKebab => hyphens ((snakeVariant cs).map Text.asciiUpper)

/-- The name that a rule gives a field. -/
def onField (rule : CaseRule) (name : String) : String :=
  String.ofList (rule.onFieldChars name.toList)

/-- The name that a rule gives a variant. -/
def onVariant (rule : CaseRule) (name : String) : String :=
  String.ofList (rule.onVariantChars name.toList)

end CaseRule

end ApiDocs
