import ApiDocs.Source.Grammar.Expression

/-!
# Statements

The statements of a block: bindings, items, calls with an exclamation mark and expressions, with
the rules on which of them need a semicolon.
-/

namespace ApiDocs.Source

/-- Whether the last of the tokens that were taken is a group in braces. -/
def endsWithBraces (before after : List Token) : Bool :=
  match (before.take (before.length - after.length)).getLast? with
  | some (.group .brace _) => true
  | _ => false

/-- Reads a binding of local names. Its value may not end with braces before an `else`. -/
def localBinding (g : Below) : Reader Unit := do
  word "let"
  discard (g.read .pattern)
  if ← sign? ":" then discard g.type
  if ← sign? "=" then
    let before ← get
    discard g.expr
    if !endsWithBraces before (← get) then
      if ← word? "else" then plainBlock g
  sign ";"

/-- Whether a constant comes first that is an item and no block or closure. -/
def startsConstItem (ts : List Token) : Bool :=
  let after := ts.drop 1
  startsWord "const" ts
    && !(startsGroup .brace after || startsWordOf ["static", "move"] after || startsSign "|" after
      || (startsWord "async" after && !startsWordOf ["unsafe", "extern", "fn"] (ts.drop 2)))

/-- Whether an item comes first rather than an expression. -/
def startsItem (ts : List Token) : Bool :=
  let after := ts.drop 1
  startsWordOf ["pub", "extern", "use", "fn", "mod", "type", "struct", "enum", "trait", "impl",
      "macro"] ts
    || (startsWord "crate" ts && !startsSign "::" after)
    || (startsWord "static" ts && (startsWord "mut" after || startsName after))
    || startsConstItem ts
    || (startsWord "unsafe" ts && !startsGroup .brace after)
    || (startsWord "async" ts && startsWordOf ["unsafe", "extern", "fn"] after)
    || (startsWord "union" ts && startsName after)
    || (startsWord "auto" ts && startsWord "trait" after)
    || (startsWord "default" ts && startsWordOf ["unsafe", "impl"] after)

/-- The tokens after the path of a code generator, if one is used first. -/
def afterGenerator? (ts : List Token) : Option (List Token) := do
  let (_, rest) ← plainPath.run ts
  if startsSign "!" rest then some (rest.drop 1) else none

/-- Whether the use of a code generator defines a named thing. -/
def startsGeneratorItem (ts : List Token) : Bool :=
  (afterGenerator? ts).any fun rest => startsName rest || startsWord "try" rest

/-- Whether the use of a code generator with braces is a statement by itself. -/
def startsGeneratorBlock (ts : List Token) : Bool :=
  (afterGenerator? ts).any fun rest =>
    startsGroup .brace rest && !(startsDot (rest.drop 1) || startsSign "?" (rest.drop 1))

/-- Reads a statement: whether a semicolon must follow unless it is the last one. -/
def statement (g : Below) : Reader Bool := do
  let attributes ← outerAttributes g
  let ts ← get
  if startsGeneratorBlock ts then
    discard plainPath
    sign "!"
    discard anyGroup
    discard (sign? ";")
    return false
  else if startsWord "let" ts then
    localBinding g
    return false
  else if startsItem ts || startsGeneratorItem ts then
    discard (g.read (.item attributes))
    return false
  else
    let form ← g.read .statementExpr
    let ended ← sign? ";"
    return !(ended || form matches .block || form matches .braces)

/-- Reads statements up to the end. -/
def statementsRule (g : Below) : Reader Unit :=
  iterate () fun _ => do
    discard <| manyWhile (startsSign ";") (sign ";")
    if ← sees List.isEmpty then return ((), false)
    let open' ← statement g
    if ← sees List.isEmpty then return ((), false)
    if open' then failure
    return ((), true)

end ApiDocs.Source
