import ApiDocs.Source.Grammar.Attribute

/-!
# Paths with generic arguments

The segments of a path with the types among their arguments. In an expression the arguments need
two colons before them.
-/

namespace ApiDocs.Source

/-- Generic arguments: the shapes of those that are types, and whether there are none at all. -/
structure ArgumentsRead where
  /-- The shapes of the types. -/
  shapes : List TypeExpr.Written
  /-- Whether there are no arguments. -/
  isEmpty : Bool

/-- A path as read. -/
structure PathRead where
  /-- Whether it starts with `::`. -/
  rooted : Bool
  /-- Its segments. -/
  segments : List TypeExpr.Segment
  /-- Whether no segment has generic arguments, not even empty ones. -/
  plain : Bool
  /-- Whether the last segment has no generic arguments, or empty ones. -/
  isOpen : Bool

/-- Reads a constant as a generic argument: a literal, a name, or a block. -/
def constantArgument (g : Below) : Reader Unit := do
  let ts ← get
  if startsLiteral ts then discard literal
  else if startsName ts then discard name
  else discard (bodyBlock g)

/-- Whether a literal or a block comes first. -/
def startsConstant (ts : List Token) : Bool :=
  startsLiteral ts || startsGroup .brace ts

/-- Reads a generic argument: its shape, if it is a type. -/
def genericArgument (g : Below) : Reader (Option TypeExpr.Written) := do
  let ts ← get
  if startsLifetime ts && !startsSign "+" (ts.drop 1) then
    lifetime
    return none
  if startsConstant ts then
    constantArgument g
    return none
  let type ← g.type
  if type.form = .path true then
    if ← sign? "=" then
      if ← sees startsConstant then constantArgument g else discard g.type
      return none
    if ← sign? ":" then
      discard <| chainUntil (startsSignOf [",", ">"]) "+" (g.read (.bound false true))
      return none
  return some type.shape

/-- Reads generic arguments from the opening to the closing sign. -/
def genericArguments (g : Below) : Reader ArgumentsRead := do
  sign "<"
  let args ← listUntil (startsSign ">") "," (genericArgument g)
  sign ">"
  return ⟨args.filterMap id, args.isEmpty⟩

/-- Reads a segment of a path. Within an expression, `::` stands before generic arguments. -/
def pathSegment (g : Below) (inExpr : Bool) :
    Reader (TypeExpr.Segment × Option ArgumentsRead) := do
  if ← sees (startsWordOf ["super", "self", "crate", "try"]) then
    let w ← anyWord
    return (⟨w.text, w.raw, [], w.valid⟩, none)
  let w ← nameOr ["Self"]
  let ts ← get
  if (!inExpr && startsSign "<" ts && !startsSignOf ["<=", "<<="] ts)
      || (startsSign "::" ts && startsSign "<" (ts.drop 2)) then
    discard (sign? "::")
    let args ← genericArguments g
    return (⟨w.text, w.raw, args.shapes, w.valid⟩, some args)
  return (⟨w.text, w.raw, [], w.valid⟩, none)

/-- A path from its segments. -/
def PathRead.ofSegments (rooted : Bool)
    (segments : List (TypeExpr.Segment × Option ArgumentsRead)) : PathRead where
  rooted := rooted
  segments := segments.map Prod.fst
  plain := segments.all fun s => s.2.isNone
  isOpen := (segments.getLast?.bind Prod.snd).all ArgumentsRead.isEmpty

/-- Reads a path. It ends before `::` and a parenthesis. -/
def path (g : Below) (inExpr : Bool) : Reader PathRead := do
  let rooted ← sign? "::"
  let first ← pathSegment g inExpr
  let rest ← manyWhile (fun ts => startsSign "::" ts && !startsGroup .paren (ts.drop 2)) do
    sign "::"
    pathSegment g inExpr
  return .ofSegments rooted (first :: rest)

/-- Reads a path that may start with a type in angle brackets: `none` if it does. -/
def qualifiedPath (g : Below) (inExpr : Bool) : Reader (Option PathRead) := do
  if ← sees (startsSign "<") then
    sign "<"
    discard g.type
    if ← word? "as" then discard (path g false)
    sign ">"
    sign "::"
    discard (pathSegment g inExpr)
    discard <| manyWhile (startsSign "::") do
      sign "::"
      pathSegment g inExpr
    return none
  return some (← path g inExpr)

/-- Whether a code generator is used: an exclamation mark that is no part of `!=` comes first. -/
def startsBang (ts : List Token) : Bool :=
  startsSign "!" ts && !startsSign "!=" ts

end ApiDocs.Source
