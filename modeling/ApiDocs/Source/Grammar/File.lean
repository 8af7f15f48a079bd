import ApiDocs.Source.Grammar.Item
import ApiDocs.Source.Lexer

/-!
# Whole files

The rules of the grammar tied together, and the reading of whole texts with them. A rule reads the
goals below it one level down, and a text of `n` tokens never nests goals deeper than a few levels
for each token, so a bound on the levels that grows with the tokens changes nothing.
-/

namespace ApiDocs.Source

/-- Reads a goal by its rule. -/
def Goal.produce (g : Below) : Goal α → Reader α
  | .type plus => typeRule g plus
  | .bound captures constants => boundRule g captures constants
  | .pattern => patternRule g
  | .expr structs => exprRule g structs
  | .operand structs => operandRule g structs
  | .operators structs base left => operatorsRule g structs base left
  | .statementExpr => statementExprRule g
  | .statements => statementsRule g
  | .item attributes => itemRule g attributes
  | .imports rooted => importsRule g rooted

/-- Reads a goal with goals nested at most the given number of levels. -/
def Goal.read : Nat → Goal α → Reader α
  | 0, _ => failure
  | levels + 1, goal => goal.produce ⟨fun below => below.read levels⟩

/-- The reader of goals in a row of tokens. -/
def Below.ofTokens (ts : List Token) : Below :=
  ⟨fun goal => goal.read (8 * (Token.countAll ts + 2))⟩

/-- Reads a source file. -/
def fileRule (g : Below) : Reader FileTree := do
  let attributes ← innerAttributes g
  let items ← manyToEnd (attributedItem g)
  return ⟨attributes, items⟩

/-- The tree of a source file. -/
def parseFile? (text : String) : Option FileTree := do
  let ts ← fileTokens? text
  (fileRule (.ofTokens ts)).whole ts

/-- The parts of an attribute that is a list, if they are well-formed. -/
def parseMetas? (ts : List Token) : Option (List Meta) :=
  (commaList (metaItem (.ofTokens ts))).whole ts

/-- The names and text values of an attribute that is a list of values, if they are well-formed. -/
def parseValues? (ts : List Token) : Option (List (Option String × Option String)) :=
  let value : Reader (Option String × Option String) := do
    let name ← metaName
    return (name, ← metaValue (.ofTokens ts))
  (commaList value).whole ts

end ApiDocs.Source
