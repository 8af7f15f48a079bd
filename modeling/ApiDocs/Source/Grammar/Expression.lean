import ApiDocs.Source.Grammar.Pattern

/-!
# Expressions

Expressions are read by the precedence of their operators and leave nothing behind: it only counts
whether they are well-formed and where they end. Before a block, a name followed by braces is no
structure.
-/

namespace ApiDocs.Source

/-! ## Operators -/

/-- The signs of the operators between two operands. A longer sign stands before its shorter
ones. -/
def operatorSigns : List (String × Precedence) :=
  [("+=", .assign), ("-=", .assign), ("*=", .assign), ("/=", .assign), ("%=", .assign),
    ("^=", .assign), ("&=", .assign), ("|=", .assign), ("<<=", .assign), (">>=", .assign),
    ("&&", .and), ("||", .or), ("<<", .shift), (">>", .shift), ("==", .compare),
    ("<=", .compare), ("!=", .compare), (">=", .compare), ("+", .sum), ("-", .sum),
    ("*", .product), ("/", .product), ("%", .product), ("^", .bitXor), ("&", .bitAnd),
    ("|", .bitOr), ("<", .compare), (">", .compare)]

/-- The operator between two operands that comes first, and the tokens after it. -/
def operator? (ts : List Token) : Option (Precedence × List Token) :=
  operatorSigns.findSome? fun (s, p) => (dropMarks? s.toList ts).map fun rest => (p, rest)

/-- Whether an equals sign comes first that assigns. -/
def startsAssign (ts : List Token) : Bool :=
  startsSign "=" ts && !startsSign "=>" ts

/-- How tightly what comes first binds, as an operator. -/
def precedenceAhead (ts : List Token) : Precedence :=
  match operator? ts with
  | some (p, _) => p
  | none =>
    if startsAssign ts then .assign
    else if startsSign ".." ts then .range
    else if startsWord "as" ts then .cast
    else .jump

/-- Reads the right operand of an operator, with all operators that bind more tightly. -/
def rightOperand (g : Below) (structs : Bool) (p : Precedence) : Reader Unit := do
  let first ← g.read (.operand structs)
  discard <| iterate first fun operand => do
    let ts ← get
    let ahead := precedenceAhead ts
    if p.rank < ahead.rank || (p.rank == ahead.rank && p.rank == Precedence.assign.rank) then
      let operand ← g.read (.operators structs ahead operand)
      return (operand, (← get).length < ts.length)
    return (operand, false)

/-- Whether a range without an upper end ends here. -/
def endsOpenRange (structs : Bool) (ts : List Token) : Bool :=
  ts.isEmpty || startsDot ts || (!structs && startsGroup .brace ts) || startsWord "as" ts
    || startsSignOf [",", ";", "?", "=>", "=", "+", "/", "%", "^", ">", "<=", "!=", "-=", "*=",
      "&=", "|=", "<<="] ts

/-- Reads a range from its sign on. -/
def rangeTail (g : Below) (structs : Bool) : Reader ExprForm := do
  let closed ← rangeSign false
  if closed || !(← sees (endsOpenRange structs)) then rightOperand g structs .range
  return .range

/-- Whether an access comes first, which may not follow a cast. -/
def startsAccess (ts : List Token) : Bool :=
  startsDot ts || startsSign "?" ts || startsGroup .bracket ts || startsGroup .paren ts

/-- Reads one operator with its right operand: the form of the whole, and whether there was one. -/
def operatorStep (g : Below) (structs : Bool) (base : Precedence) (left : ExprForm) :
    Reader (ExprForm × Bool) := do
  if left matches .range then return (left, false)
  let ts ← get
  match operator? ts with
  | some (p, rest) =>
    if p.rank < base.rank then return (left, false)
    if p matches .compare && left matches .comparison then failure
    set rest
    rightOperand g structs p
    return (if p matches .compare then .comparison else .other, true)
  | none =>
    if base.rank ≤ Precedence.assign.rank && startsAssign ts then
      sign "="
      rightOperand g structs .assign
      return (.other, true)
    else if base.rank ≤ Precedence.range.rank && startsSign ".." ts then
      return (← rangeTail g structs, true)
    else if startsWord "as" ts then
      discard next
      discard (g.read (.type false))
      if ← sees startsAccess then failure
      return (.other, true)
    else return (left, false)

/-- Reads the operators after an operand that bind at least as tightly as given. -/
def operatorsRule (g : Below) (structs : Bool) (base : Precedence) (left : ExprForm) :
    Reader ExprForm :=
  iterate left (operatorStep g structs base)

/-! ## Accesses -/

/-- Reads the arguments of a call. -/
def arguments (g : Below) : Reader Unit :=
  discard <| within .paren (commaList g.expr)

/-- Whether digits, with underscores after the first, name a place in a tuple. -/
def isTupleIndex (digits : List Char) : Bool :=
  match digits with
  | [] => false
  | c :: _ =>
    c.isDigit && digits.all (fun c => c.isDigit || c == '_')
      && digits.foldl (fun n c => if c == '_' then n else n * 10 + (c.toNat - 48)) 0
        < Decimal.twoTo 32

/-- The places in nested tuples that a number with points names, and whether a point ends it. -/
def tupleIndices (text : String) : List (List Char) × Bool :=
  let parts := Text.cutAt (· == '.') text.toList
  if parts.getLast? == some [] then (parts.dropLast, true) else (parts, false)

/-- Reads a field name or the place of a field in a tuple: whether it is a name. -/
def member : Reader Bool := do
  match ← get with
  | .literal ⟨_, .integer value ""⟩ :: rest =>
    if value < Decimal.twoTo 32 then
      set rest
      return false
    failure
  | _ =>
    discard name
    return true

/-- Reads the access to a field or the call of a method after its dot. -/
def memberAccess (g : Below) : Reader Unit := do
  if ← word? "await" then return
  let named ← member
  let ts ← get
  let generic := named && startsSign "::" ts
  if generic then
    sign "::"
    discard (genericArguments g)
  if generic || (named && startsGroup .paren ts) then arguments g

/-- Reads a dot and what it accesses. A number with points accesses nested tuples. -/
def dotAccess (g : Below) : Reader Unit := do
  sign "."
  match ← get with
  | .literal ⟨text, .float⟩ :: rest =>
    let (indices, more) := tupleIndices text
    if !indices.all isTupleIndex then failure
    set rest
    if more then memberAccess g
  | _ => memberAccess g

/-- Reads calls, accesses, indices and question marks after an expression. -/
def accesses (g : Below) (first : ExprForm) : Reader ExprForm :=
  iterate first fun form => do
    let ts ← get
    let isRange := form matches .range
    if startsGroup .paren ts then
      arguments g
      return (.other, true)
    else if startsDot ts && !isRange then
      dotAccess g
      return (.other, true)
    else if startsGroup .bracket ts then
      discard <| within .bracket g.expr
      return (.other, true)
    else if startsSign "?" ts && !isRange then
      sign "?"
      return (.other, true)
    else return (form, false)

/-! ## Blocks -/

/-- Reads an expression before a brace, which may not be a structure. -/
def headExpr (g : Below) : Reader Unit :=
  discard (g.read (.expr false))

/-- Reads a condition with its blocks. -/
def ifExpr (g : Below) : Reader Unit :=
  iterate () fun _ => do
    word "if"
    headExpr g
    plainBlock g
    if ← word? "else" then
      if ← sees (startsWord "if") then return ((), true)
      plainBlock g
    return ((), false)

/-- Reads a loop over the elements of an expression. -/
def forExpr (g : Below) : Reader Unit := do
  word "for"
  discard (alternatives g)
  word "in"
  headExpr g
  discard (bodyBlock g)

/-- Reads a loop with a condition. -/
def whileExpr (g : Below) : Reader Unit := do
  word "while"
  headExpr g
  discard (bodyBlock g)

/-- Whether a closure with bound lifetimes comes first. -/
def startsForClosure (ts : List Token) : Bool :=
  startsWord "for" ts && startsSign "<" (ts.drop 1)
    && (startsLifetime (ts.drop 2) || startsSign ">" (ts.drop 2))

/-- Whether an expression comes first that ends with a block and is a statement by itself. -/
def startsBlockExpr (ts : List Token) : Bool :=
  startsWordOf ["if", "while", "loop", "match", "unsafe"] ts || startsGroup .brace ts
    || (startsWord "for" ts && !startsForClosure ts)
    || (startsWordOf ["try", "const"] ts && startsGroup .brace (ts.drop 1))

/-- Whether an expression starts here. -/
def startsExpr (ts : List Token) : Bool :=
  (startsAnyWord ts && !startsWord "as" ts)
    || startsGroup .paren ts || startsGroup .bracket ts || startsGroup .brace ts
    || startsLiteral ts
    || startsBang ts
    || (startsSign "-" ts && !startsSignOf ["-=", "->"] ts)
    || (startsSign "*" ts && !startsSign "*=" ts)
    || (startsSign "|" ts && !startsSign "|=" ts)
    || (startsSign "&" ts && !startsSign "&=" ts)
    || startsSign ".." ts
    || (startsSign "<" ts && !startsSignOf ["<=", "<<="] ts)
    || startsSign "::" ts || startsLifetime ts || startsSign "#" ts

/-- Reads an arm of a match. A comma must follow unless the arm ends with a block or is the last
one. -/
def matchArm (g : Below) : Reader Unit := do
  discard (outerAttributes g)
  discard (alternatives g)
  if ← word? "if" then discard g.expr
  sign "=>"
  let body ← g.read .statementExpr
  let comma ← sign? ","
  if comma || body matches .block || (← sees List.isEmpty) then return else failure

/-- Reads a match. -/
def matchExpr (g : Below) : Reader Unit := do
  word "match"
  headExpr g
  within .brace do
    discard (innerAttributes g)
    discard <| manyToEnd (matchArm g)

/-- Reads an expression that ends with a block and is a statement by itself. -/
def blockExpr (g : Below) : Reader ExprForm := do
  let ts ← get
  if startsWord "if" ts then ifExpr g
  else if startsWord "while" ts then whileExpr g
  else if startsWord "for" ts then forExpr g
  else if startsWord "match" ts then matchExpr g
  else if startsWord "try" ts then
    discard next
    plainBlock g
  else
    if startsWordOf ["loop", "unsafe", "const"] ts then discard next
    discard (bodyBlock g)
  return .block

/-- Reads a loop or a block after its label. -/
def labelledExpr (g : Below) : Reader ExprForm := do
  lifetime
  sign ":"
  expect fun ts => startsWordOf ["while", "for", "loop"] ts || startsGroup .brace ts
  blockExpr g

/-! ## Atoms -/

/-- Reads a closure. -/
def closureExpr (g : Below) (structs : Bool) : Reader Unit := do
  discard (boundLifetimes g)
  discard (word? "const")
  discard (word? "static")
  discard (word? "async")
  discard (word? "move")
  sign "|"
  discard <| listUntil (startsSign "|") "," do
    discard (outerAttributes g)
    discard (g.read .pattern)
    if ← sign? ":" then discard g.type
  sign "|"
  if ← sign? "->" then
    discard g.type
    plainBlock g
  else discard (g.read (.expr structs))

/-- Reads the fields of a structure; two dots and the structure of the other fields may end
them. -/
def structFields (g : Below) : Reader Unit :=
  iterate () fun _ => do
    if ← sees List.isEmpty then return ((), false)
    if ← sign? ".." then
      if !(← sees List.isEmpty) then discard g.expr
      return ((), false)
    discard (outerAttributes g)
    let named ← member
    if !named || (← sees (startsSign ":")) then
      sign ":"
      discard g.expr
    if ← sees List.isEmpty then return ((), false)
    sign ","
    return ((), true)

/-- Reads an expression that starts with a path: a use of a code generator, a structure, or the
path itself. -/
def pathExpr (g : Below) (structs : Bool) : Reader ExprForm := do
  let read ← qualifiedPath g true
  let ts ← get
  if startsBang ts && read.any PathRead.plain then
    sign "!"
    let d ← anyGroup
    return if d = .brace then .braces else .other
  if structs && startsGroup .brace ts then within .brace (structFields g)
  return .other

/-- Reads the elements of an array, or one element and how often it stands there. -/
def arrayElements (g : Below) : Reader Unit := do
  if ← sees List.isEmpty then return
  discard g.expr
  if ← sign? ";" then discard g.expr
  else if !(← sees List.isEmpty) then
    sign ","
    discard (commaList g.expr)

/-- Reads the value after a keyword, if there is one. -/
def optionalValue (g : Below) : Reader Unit := do
  if ← sees startsExpr then discard g.expr

/-- Reads the end of a loop, with a label and a value. A label may not start a labelled block. -/
def breakExpr (g : Below) (structs : Bool) : Reader Unit := do
  word "break"
  if ← lifetime? then
    if ← sees (startsSign ":") then failure
  if ← sees fun ts => startsExpr ts && (structs || !startsGroup .brace ts) then discard g.expr

/-- Whether a closure comes first. -/
def startsClosure (ts : List Token) : Bool :=
  let after := ts.drop 1
  startsSign "|" ts || startsWordOf ["move", "static"] ts || startsForClosure ts
    || (startsWord "const" ts && !startsGroup .brace after)
    || (startsWord "async" ts && (startsSign "|" after || startsWord "move" after))

/-- Whether an asynchronous block comes first. -/
def startsAsyncBlock (ts : List Token) : Bool :=
  startsWord "async" ts
    && (startsGroup .brace (ts.drop 1)
      || (startsWord "move" (ts.drop 1) && startsGroup .brace (ts.drop 2)))

/-- Whether a path comes first. -/
def startsPath (ts : List Token) : Bool :=
  startsName ts || startsSignOf ["::", "<"] ts || startsWordOf pathWords ts
    || (startsWord "try" ts && startsSignOf ["!", "::"] (ts.drop 1))

/-- Reads an expression without operators and accesses. -/
def atom (g : Below) (structs : Bool) : Reader ExprForm := do
  let ts ← get
  if startsLiteral ts then
    return match ← literal with
      | some value => .text value
      | none => .other
  else if startsAsyncBlock ts then
    discard next
    discard (word? "move")
    plainBlock g
  else if startsWord "try" ts && startsGroup .brace (ts.drop 1) then
    return ← blockExpr g
  else if startsClosure ts then closureExpr g structs
  else if startsWord "builtin" ts && startsSign "#" (ts.drop 1) then
    discard next
    sign "#"
    discard anyWord
    discard (group .paren)
  else if startsPath ts then return ← pathExpr g structs
  else if startsGroup .paren ts then
    discard <| within .paren (commaList g.expr)
  else if startsWord "break" ts then breakExpr g structs
  else if startsWord "continue" ts then
    discard next
    discard lifetime?
  else if startsWordOf ["return", "yield"] ts then
    discard next
    optionalValue g
  else if startsWord "become" ts then
    discard next
    discard g.expr
  else if startsGroup .bracket ts then within .bracket (arrayElements g)
  else if startsWord "let" ts then
    discard next
    discard (alternatives g)
    sign "="
    let first ← g.read (.operand structs)
    discard (g.read (.operators structs .compare first))
  else if startsBlockExpr ts then return ← blockExpr g
  else if startsSign ".." ts then return ← rangeTail g structs
  else if startsWord "_" ts then discard next
  else if startsLifetime ts then return ← labelledExpr g
  else failure
  return .other

/-- Reads an operand, with the operators before and the accesses after it. -/
def operandRule (g : Below) (structs : Bool) : Reader ExprForm := do
  let attributes ← outerAttributes g
  let ts ← get
  if startsSign "&" ts then
    sign "&"
    let ts ← get
    let raw := startsWord "raw" ts && startsWordOf ["mut", "const"] (ts.drop 1)
    if raw then discard next
    let mutable ← word? "mut"
    if raw && !mutable then word "const"
    discard (g.read (.operand structs))
    return .other
  else if startsSignOf ["*", "!", "-"] ts then
    discard next
    discard (g.read (.operand structs))
    return .other
  else
    let form ← accesses g (← atom g structs)
    if !attributes.isEmpty && form matches .range then failure
    return form

/-- Reads an expression in the place of a statement, where a block ends it. -/
def statementExprRule (g : Below) : Reader ExprForm := do
  discard (outerAttributes g)
  let ts ← get
  let form ← if startsBlockExpr ts then blockExpr g
    else if startsLifetime ts then labelledExpr g
    else g.read (.operand true)
  if !(form matches .block) then g.read (.operators true .jump form)
  else if ← sees (fun ts => startsDot ts || startsSign "?" ts) then
    let form ← accesses g form
    g.read (.operators true .jump form)
  else return form

/-- Reads an expression. -/
def exprRule (g : Below) (structs : Bool) : Reader ExprForm := do
  let first ← g.read (.operand structs)
  g.read (.operators structs .jump first)

end ApiDocs.Source
