import ApiDocs.Decimal.Power
import ApiDocs.Source.Grammar.Type

/-!
# Patterns

Patterns of parameters, bindings and match arms. They leave nothing behind.
-/

namespace ApiDocs.Source

/-- Whether a bar comes first that divides alternatives. -/
def startsBar (ts : List Token) : Bool :=
  startsSign "|" ts && !startsSignOf ["||", "|="] ts

/-- Reads a pattern with alternatives, maybe with a bar before the first. -/
def alternatives (g : Below) : Reader PatternForm := do
  let leading ← sign? "|"
  let first ← g.read .pattern
  let more ← manyWhile startsBar do
    sign "|"
    g.read .pattern
  return if leading || !more.isEmpty then .other else first

/-- Reads a constant block. -/
def constantBlock (g : Below) : Reader Unit := do
  word "const"
  discard (bodyBlock g)

/-- Whether a range ends here without an upper bound. -/
def endsRange (ts : List Token) : Bool :=
  ts.isEmpty || startsSignOf ["|", "=", ",", ";"] ts || startsColon ts || startsWord "if" ts

/-- Reads an end of a range, if there is one: whether there is. -/
def rangeEnd (g : Below) : Reader Bool := do
  let ts ← get
  if endsRange ts then return false
  if startsLiteral ts then discard literal
  else if startsName ts || startsWordOf pathWords ts || startsSignOf ["::", "<"] ts then
    discard (qualifiedPath g true)
  else constantBlock g
  return true

/-- Reads the sign of a range: whether it includes its upper end. An old sign of three dots is
allowed where `three` holds. -/
def rangeSign (three : Bool) : Reader Bool := do
  if ← sign? "..=" then return true
  if ← sees (startsSign "...") then
    if three then
      sign "..."
      return true
    failure
  sign ".."
  return false

/-- Reads the sign and the upper end of a range; an end that is included must be there. -/
def rangeRest (g : Below) (three : Bool) : Reader Bool := do
  let closed ← rangeSign three
  let hasEnd ← rangeEnd g
  if closed && !hasEnd then failure
  return hasEnd

/-- Reads the pattern of a field. -/
def fieldPattern (g : Below) : Reader Unit := do
  let boxed ← word? "box"
  let byRef ← word? "ref"
  let mutable ← word? "mut"
  if boxed || byRef || mutable then discard name
  else
    match ← get with
    | .literal ⟨_, .integer value ""⟩ :: rest =>
      if value < Decimal.twoTo 32 then
        set rest
        sign ":"
        discard (alternatives g)
      else failure
    | _ =>
      discard name
      if ← sign? ":" then discard (alternatives g)

/-- Reads the fields of a structure pattern, which may end with two dots. -/
def structPattern (g : Below) : Reader Unit :=
  discard <| steps fun acc => do
    if ← sees List.isEmpty then return (acc, false)
    discard (outerAttributes g)
    if ← sign? ".." then return (acc, false)
    fieldPattern g
    if ← sees List.isEmpty then return (acc, false)
    sign ","
    return (() :: acc, true)

/-- Reads a pattern that starts with a path. -/
def pathPattern (g : Below) : Reader PatternForm := do
  let read ← qualifiedPath g true
  let ts ← get
  if startsBang ts && read.any PathRead.plain then
    sign "!"
    discard anyGroup
    return .other
  if startsGroup .brace ts then
    within .brace (structPattern g)
    return .other
  if startsGroup .paren ts then
    discard <| within .paren (commaList (alternatives g))
    return .other
  if startsSign ".." ts then
    return if ← rangeRest g true then .other else .openRange
  return .other

/-- Reads a pattern that starts with a literal. -/
def literalPattern (g : Below) : Reader PatternForm := do
  if !(← rangeEnd g) then failure
  if ← sees (startsSign "..") then
    return if ← rangeRest g true then .other else .openRange
  return .other

/-- Reads a pattern that binds a name. -/
def bindingPattern (g : Below) : Reader PatternForm := do
  discard (word? "ref")
  discard (word? "mut")
  discard (nameOr ["self"])
  if ← sign? "@" then discard (g.read .pattern)
  return .other

/-- Whether a pattern starts with a path that is more than a name. -/
def startsPathPattern (ts : List Token) : Bool :=
  let after := ts.drop 1
  (startsName ts
      && (startsSignOf ["::", "!", ".."] after || startsGroup .brace after
        || startsGroup .paren after))
    || (startsWord "self" ts && startsSign "::" after)
    || startsSignOf ["::", "<"] ts
    || startsWordOf ["Self", "super", "crate"] ts

/-- Reads a pattern without alternatives. -/
def patternRule (g : Below) : Reader PatternForm := do
  let ts ← get
  if startsPathPattern ts then pathPattern g
  else if startsWord "_" ts then
    discard next
    return .other
  else if startsWord "box" ts then
    discard next
    discard (g.read .pattern)
    return .other
  else if startsSign "-" ts || startsLiteral ts || startsWord "const" ts then literalPattern g
  else if startsWordOf ["ref", "mut", "self"] ts || startsName ts then bindingPattern g
  else if startsSign "&" ts then
    sign "&"
    discard (word? "mut")
    discard (g.read .pattern)
    return .other
  else if startsGroup .paren ts then
    discard <| within .paren (commaList (alternatives g))
    return .other
  else if startsGroup .bracket ts then
    let elements ← within .bracket (commaList (alternatives g))
    if elements.contains .openRange then failure
    return .other
  else if startsSign ".." ts && !startsSign "..." ts then
    let closed ← rangeSign false
    if ← rangeEnd g then return .openRange
    if closed then failure
    return .rest
  else failure

end ApiDocs.Source
