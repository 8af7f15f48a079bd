import ApiDocs.Source.Grammar.Path

/-!
# Types, bounds and generic parameters

A type keeps the shape that documents need and drops the rest. A plus after a type joins bounds
where that is allowed.
-/

namespace ApiDocs.Source

/-! ## Generic parameters -/

/-- Reads the lifetimes after a colon. -/
def lifetimeBounds (stop : List Token → Bool) : Reader Unit := do
  if ← sign? ":" then discard <| chainUntil stop "+" lifetime

/-- Reads a generic parameter after its attributes. -/
def genericParameter (g : Below) : Reader Unit := do
  let ts ← get
  if startsLifetime ts then
    lifetime
    lifetimeBounds (startsSignOf [",", ">"])
  else if startsName ts then
    discard name
    if ← sign? ":" then
      discard <| chainUntil (startsSignOf [",", ">", "="]) "+" (g.read (.bound false true))
    if ← sign? "=" then discard g.type
  else
    word "const"
    discard name
    sign ":"
    discard g.type
    if ← sign? "=" then constantArgument g

/-- Reads generic parameters with their angle brackets, if there are any: whether there are. -/
def generics (g : Below) : Reader Bool := do
  if ← sign? "<" then
    discard <| listUntil (startsSign ">") "," do
      discard (outerAttributes g)
      if ← word? "_" then return
      genericParameter g
    sign ">"
    return true
  return false

/-- Reads the lifetimes for which a type or a bound holds, if there are any: whether there are. -/
def boundLifetimes (g : Below) : Reader Bool := do
  if ← word? "for" then
    sign "<"
    discard <| listUntil (startsSign ">") "," do
      discard (outerAttributes g)
      genericParameter g
    sign ">"
    return true
  return false

/-- Whether the conditions on generic parameters end here. -/
def endsConditions (ts : List Token) : Bool :=
  ts.isEmpty || startsGroup .brace ts || startsSignOf [",", ";", "="] ts || startsColon ts

/-- Reads a condition on generic parameters. -/
def condition (g : Below) : Reader Unit := do
  let ts ← get
  if startsLifetime ts && startsSign ":" (ts.drop 1) then
    lifetime
    lifetimeBounds fun ts =>
      ts.isEmpty || startsGroup .brace ts || startsSignOf [",", ";", ":", "="] ts
  else
    discard (boundLifetimes g)
    discard g.type
    sign ":"
    discard <| chainUntil endsConditions "+" (g.read (.bound false true))

/-- Reads the conditions on generic parameters, if there are any: whether there are. -/
def conditions (g : Below) : Reader Bool := do
  if ← word? "where" then
    discard <| chainUntil endsConditions "," (condition g)
    return true
  return false

/-! ## Bounds -/

/-- Reads the type after an arrow, if there is one. -/
def returnType (g : Below) (plus : Bool) : Reader Unit := do
  if ← sign? "->" then discard (g.read (.type plus))

/-- Reads a bound that is a trait, maybe with the types of a function. -/
def traitBound (g : Below) (constants : Bool) : Reader Unit := do
  let lifetimes ← boundLifetimes g
  if ← sign? "~" then
    word "const"
    if !constants then failure
  else if ← word? "const" then
    if !constants then failure
  if ← sign? "?" then
    if !lifetimes then discard (boundLifetimes g)
  let read ← path g false
  let ts ← get
  if read.isOpen
      && (startsGroup .paren ts || (startsSign "::" ts && startsGroup .paren (ts.drop 2))) then
    discard (sign? "::")
    discard <| within .paren (commaList g.type)
    returnType g false

/-- Reads the parameters that an unnamed type captures. -/
def captures : Reader Unit := do
  word "use"
  sign "<"
  discard <| listUntil (startsSign ">") "," do
    if ← lifetime? then return
    discard (nameOr ["Self"])
  sign ">"

/-- Reads a bound. -/
def boundRule (g : Below) (mayCapture constants : Bool) : Reader BoundForm := do
  let ts ← get
  if startsLifetime ts then
    lifetime
    return .lifetime
  if startsWord "use" ts then
    captures
    if mayCapture then return .capture else failure
  if startsGroup .paren ts then within .paren (traitBound g constants) else traitBound g constants
  return .trait

/-- Whether another bound may come first. -/
def startsBound (ts : List Token) : Bool :=
  startsAnyWord ts || startsSignOf ["::", "?"] ts || startsLifetime ts || startsGroup .paren ts

/-- Reads bounds with a plus between them; one only where no plus is allowed. -/
def bounds (plus mayCapture constants : Bool) (g : Below) : Reader (List BoundForm) :=
  steps fun acc => do
    let b ← g.read (.bound mayCapture constants)
    if !plus then return (b :: acc, false)
    if ← sign? "+" then
      return (b :: acc, ← sees fun ts => startsBound ts || startsSign "~" ts)
    return (b :: acc, false)

/-- Reads the bounds of a type, of which one at least must be a trait. -/
def typeBounds (plus mayCapture constants : Bool) (g : Below) : Reader (List BoundForm) := do
  let bs ← bounds plus mayCapture constants g
  if bs.contains .trait then return bs else failure

/-- Reads further bounds, each after a plus. -/
def moreBounds (g : Below) : Reader Nat := do
  let bs ← manyWhile (startsSign "+") do
    sign "+"
    g.read (.bound false false)
  return bs.length

/-! ## Types -/

/-- A type that has no shape. -/
def TypeRead.unknown : TypeRead := ⟨.unknown, .other⟩

/-- Reads the types in parentheses after a first one and a comma. -/
def tupleRest (g : Below) : Reader Unit := do
  sign ","
  discard (commaList g.type)

/-- What stands in parentheses where a type is. -/
inductive ParenForm where
  /-- A tuple of types, or a type of bounds. -/
  | closed
  /-- A bound, after which others may follow. -/
  | bound
  /-- One type. -/
  | type (read : TypeRead)

/-- Reads the inside of parentheses where a type is. -/
def parenType (g : Below) : Reader ParenForm := do
  let ts ← get
  if ts.isEmpty then return .closed
  if startsLifetime ts then
    discard (typeBounds true false false g)
    return .closed
  if startsSign "?" ts then
    traitBound g true
    return .bound
  let first ← g.type
  if ← sees (startsSign ",") then
    tupleRest g
    return .closed
  return .type first

/-- Reads a type that starts with a parenthesis. A single type in it may be the first of several
bounds. -/
def typeInParens (g : Below) (plus : Bool) : Reader TypeRead := do
  match ← within .paren (parenType g) with
  | .closed => return .unknown
  | .bound =>
    let more ← moreBounds g
    return ⟨.unknown, .bounds (more == 0)⟩
  | .type first =>
    let asBound := match first.form with
      | .path _ => true
      | .bounds single => single
      | .other => false
    if plus && asBound then
      if ← sees (startsSign "+") then
        let more ← moreBounds g
        return ⟨.unknown, .bounds (more == 0)⟩
    return ⟨first.shape, .other⟩

/-- Whether a parameter takes any number of further arguments. -/
def startsVariadic (ts : List Token) : Bool :=
  startsSign "..." ts
    || ((startsName ts || startsWord "_" ts) && startsSign ":" (ts.drop 1)
        && startsSign "..." (ts.drop 2))

/-- Reads a parameter of a function type after its attributes. -/
def functionTypeParameter (g : Below) (isFirst : Bool) : Reader Unit := do
  discard (outerAttributes g)
  let ts ← get
  let mutable := isFirst && startsWord "mut" ts && startsWord "self" (ts.drop 1)
  if mutable then discard next
  let ts ← get
  let named := (startsName ts || startsWord "_" ts || (isFirst && startsWord "self" ts))
    && startsColon (ts.drop 1)
  if named then
    discard next
    sign ":"
  if mutable && !named then word "self"
  else if isFirst && startsWord "mut" (← get) && startsWord "self" ((← get).drop 1)
      && !(named && startsWord "self" ts) then
    discard next
    discard next
  else discard g.type

/-- Reads the parameters of a function type. -/
def functionTypeParameters (g : Below) : Reader Unit :=
  discard <| steps fun acc => do
    if ← sees List.isEmpty then return (acc, false)
    discard (outerAttributes g)
    if ← sees startsVariadic then
      if !(← sees (startsSign "...")) then
        discard next
        sign ":"
      sign "..."
      discard (sign? ",")
      return (acc, false)
    functionTypeParameter g acc.isEmpty
    if ← sees List.isEmpty then return (acc, false)
    sign ","
    return (() :: acc, true)

/-- Reads the name of a calling convention, if there is one. -/
def convention : Reader Unit := do
  if ← word? "extern" then
    if ← sees startsText then textLiteral

/-- Reads a function type after its lifetimes. -/
def functionType (g : Below) : Reader TypeRead := do
  discard (word? "unsafe")
  convention
  word "fn"
  within .paren (functionTypeParameters g)
  returnType g false
  return .unknown

/-- Reads a type that starts with a path. -/
def pathType (g : Below) (plus lifetimes : Bool) : Reader TypeRead := do
  match ← qualifiedPath g false with
  | none => return .unknown
  | some read =>
    let ts ← get
    if startsBang ts && read.plain then
      sign "!"
      discard anyGroup
      return .unknown
    if lifetimes || (plus && startsSign "+" ts) then
      let more ← if plus then
        steps fun acc => do
          if ← sign? "+" then
            if ← sees startsBound then
              discard (g.read (.bound false false))
              return (() :: acc, true)
            return (() :: acc, false)
          return (acc, false)
        else pure []
      return ⟨.unknown, .bounds more.isEmpty⟩
    return ⟨TypeExpr.ofPath read.segments, .path (!read.rooted && read.segments.length == 1)⟩

/-- Reads a type in brackets: of a sequence with any length or with a given one. -/
def sequenceType (g : Below) : Reader TypeRead :=
  within .bracket do
    let element ← g.type
    if ← sign? ";" then discard g.expr
    return ⟨.sequence element.shape, .other⟩

/-- Reads a type. -/
def typeRule (g : Below) (plus : Bool) : Reader TypeRead := do
  let lifetimes ← boundLifetimes g
  let ts ← get
  if lifetimes then
    expect fun ts => startsName ts || startsWordOf ("fn" :: "unsafe" :: "extern" :: pathWords) ts
  if startsGroup .paren ts then typeInParens g plus
  else if startsWordOf ["fn", "unsafe", "extern"] ts then functionType g
  else if startsName ts || startsWordOf pathWords ts || startsSignOf ["::", "<"] ts then
    pathType g plus lifetimes
  else if startsWord "dyn" ts then
    discard next
    discard (sign? "*")
    discard (typeBounds plus false false g)
    return .unknown
  else if startsGroup .bracket ts then sequenceType g
  else if startsSign "*" ts then
    sign "*"
    expect (startsWordOf ["const", "mut"])
    discard next
    discard (g.read (.type false))
    return .unknown
  else if startsSign "&" ts then
    sign "&"
    discard lifetime?
    discard (word? "mut")
    let target ← g.read (.type false)
    return ⟨target.shape, .other⟩
  else if startsSign "!" ts && !startsSign "=" ts then
    sign "!"
    return .unknown
  else if startsWord "impl" ts then
    discard next
    discard (typeBounds plus true true g)
    return .unknown
  else if startsWord "_" ts then
    discard next
    return .unknown
  else if startsLifetime ts then
    let bs ← typeBounds true false false g
    return ⟨.unknown, .bounds (bs.length == 1)⟩
  else failure

end ApiDocs.Source
