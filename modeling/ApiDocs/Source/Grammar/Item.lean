import ApiDocs.Source.Grammar.Statement

/-!
# Items

Items are what stands at the top of a file or in a module. Functions, imports, types,
implementations and modules are kept; all others are read and skipped.
-/

namespace ApiDocs.Source

/-! ## Visibility and functions -/

/-- Reads the place after `pub` from which an item is seen, if it is given. Other parentheses belong
to what follows. -/
def visibilityPlace : Reader Unit := do
  match ← get with
  | .group .paren inner :: rest =>
    if startsWordOf ["crate", "self", "super"] inner && inner.length == 1 then set rest
    else if startsWord "in" inner then
      match plainPath.whole (inner.drop 1) with
      | some _ => set rest
      | none => failure
  | _ => return

/-- Reads the visibility of an item: whether it has one. -/
def visibility : Reader Bool := do
  if ← word? "pub" then
    visibilityPlace
    return true
  return false

/-- Drops a certain word if it comes first. -/
def dropWord (text : String) (ts : List Token) : List Token :=
  if startsWord text ts then ts.drop 1 else ts

/-- Drops the name of a calling convention if it comes first. -/
def dropConvention (ts : List Token) : List Token :=
  if startsWord "extern" ts then
    if startsText (ts.drop 1) then ts.drop 2 else ts.drop 1
  else ts

/-- Whether a function comes first. -/
def startsFunction (maySafe : Bool) (ts : List Token) : Bool :=
  let ts := dropWord "async" (dropWord "const" ts)
  let ts := if maySafe && startsWord "safe" ts then ts.drop 1 else dropWord "unsafe" ts
  startsWord "fn" (dropConvention ts)

/-- Reads the first parameter of a method. -/
def receiver (g : Below) : Reader Unit := do
  let reference ← sign? "&"
  if reference then discard lifetime?
  discard (word? "mut")
  word "self"
  if !reference then
    if ← sign? ":" then discard g.type

/-- Reads a comma unless no token is left. -/
def commaOrEnd : Reader Unit := do
  if !(← sees List.isEmpty) then sign ","

/-- Reads the parameters of a function. Only the first may be a receiver, and only the last may
take any number of arguments. -/
def parameters (g : Below) : Reader Unit :=
  discard <| iterate true fun isFirst => do
    if ← sees List.isEmpty then return (isFirst, false)
    discard (outerAttributes g)
    if ← sign? "..." then
      commaOrEnd
      return (false, false)
    match ← attempt (receiver g) with
    | some _ => if !isFirst then failure
    | none =>
      let ts ← get
      if startsName ts && startsSign "<" (ts.drop 1) then discard g.type
      else
        discard (g.read .pattern)
        sign ":"
        if ← sign? "..." then
          commaOrEnd
          return (false, false)
        discard g.type
    if ← sees List.isEmpty then return (false, false)
    sign ","
    return (false, true)

/-- Reads a function up to its body: its name. -/
def signature (g : Below) (maySafe : Bool) : Reader String := do
  discard (word? "const")
  discard (word? "async")
  if maySafe && (← sees (startsWord "safe")) then discard next
  else discard (word? "unsafe")
  convention
  word "fn"
  let w ← name
  discard (generics g)
  within .paren (parameters g)
  returnType g true
  discard (conditions g)
  return w.text

/-! ## Constants and aliases -/

/-- Reads a constant: whether it has a value and neither parameters nor conditions. -/
def constant (g : Below) : Reader Bool := do
  word "const"
  discard (nameOr ["_"])
  let parameters ← generics g
  sign ":"
  discard g.type
  let value ← sign? "="
  if value then discard g.expr
  let conditions ← conditions g
  sign ";"
  return value && !parameters && !conditions

/-- Reads a variable that lives as long as the program: whether it has a type and a value. -/
def globalVariable (g : Below) : Reader Bool := do
  word "static"
  discard (word? "mut")
  discard name
  if ← sign? "=" then
    discard g.expr
    sign ";"
    return false
  sign ":"
  discard g.type
  if ← sign? ";" then return false
  sign "="
  discard g.expr
  sign ";"
  return true

/-- Where conditions may stand in the definition of a type name. -/
structure ConditionPlaces where
  /-- Before the equals sign. -/
  before : Bool
  /-- After the type. -/
  after : Bool

/-- Reads the definition of a type name: the name, and the type if there is one without bounds. -/
def typeName (g : Below) (places : ConditionPlaces) : Reader (Word × Option TypeExpr.Written) := do
  word "type"
  let w ← name
  discard (generics g)
  let bounded ← sign? ":"
  if bounded then
    discard <| listUntil (fun ts => startsWord "where" ts || startsSignOf ["=", ";"] ts) "+"
      (g.read (.bound false true))
  let early ← if places.before then conditions g else pure false
  let type ← if ← sign? "=" then some <$> g.type else pure none
  if places.after && !early then discard (conditions g)
  sign ";"
  return (w, if bounded then none else type.map TypeRead.shape)

/-! ## Structures and enumerations -/

/-- Whether the fields of an unnamed field come first. -/
def startsFieldsType (ts : List Token) : Bool :=
  startsWord "struct" ts || (startsWord "union" ts && startsGroup .brace (ts.drop 1))

/-- Reads a field with a name. The fields of a field without a name are read by `nested`. -/
def namedField (g : Below) (nested : Reader Unit) : Reader FieldTree := do
  let attributes ← outerAttributes g
  discard visibility
  let unnamed ← sees (startsWord "_")
  let w ← nameOr ["_"]
  sign ":"
  if unnamed && (← sees startsFieldsType) then
    discard anyWord
    nested
    return ⟨attributes, w.text, .unknown⟩
  return ⟨attributes, w.text, (← g.type).shape⟩

/-- Reads fields with names, in braces; fields without a name nest at most `depth` times. -/
def namedFields (g : Below) : Nat → Reader (List FieldTree)
  | 0 => failure
  | depth + 1 => within .brace (commaList (namedField g (discard (namedFields g depth))))

/-- Reads fields with names, in braces. -/
def fieldsInBraces (g : Below) : Reader (List FieldTree) := do
  let ts ← get
  namedFields g (Token.countAll (ts.take 1) + 1)

/-- Reads fields without names, in parentheses. -/
def fieldsInParens (g : Below) : Reader (List TypeExpr.Written) :=
  within .paren <| commaList do
    discard (outerAttributes g)
    discard visibility
    return (← g.type).shape

/-- Reads the fields of a structure, with the conditions before or after them. -/
def structBody (g : Below) : Reader FieldsTree := do
  let early ← conditions g
  let ts ← get
  if !early && startsGroup .paren ts then
    let types ← fieldsInParens g
    discard (conditions g)
    sign ";"
    return .tuple types
  else if startsGroup .brace ts then return .named (← fieldsInBraces g)
  else
    sign ";"
    return .unit

/-- Reads a variant of an enumeration. -/
def variant (g : Below) : Reader VariantTree := do
  let attributes ← outerAttributes g
  discard visibility
  let w ← name
  let ts ← get
  let fields ← if startsGroup .brace ts then FieldsTree.named <$> fieldsInBraces g
    else if startsGroup .paren ts then FieldsTree.tuple <$> fieldsInParens g
    else pure .unit
  if ← sign? "=" then discard g.expr
  return ⟨attributes, w.text, fields⟩

/-! ## Imports -/

/-- Reads the trees of imports in braces: `none` if a path in them starts with `::`. -/
def importGroup (g : Below) (rooted : Bool) : Reader (Option UseTree) := do
  let trees ← within .brace <| commaList do
    let root ← if rooted then sign? "::" else pure false
    let tree ← g.read (.imports (rooted && !root))
    return if root then none else tree
  return if trees.all Option.isSome then some (.group (trees.filterMap id)) else none

/-- Reads a tree of imports. -/
def importsRule (g : Below) (rooted : Bool) : Reader (Option UseTree) := do
  let ts ← get
  if startsName ts || startsWordOf ["self", "super", "crate", "try"] ts then
    let w ← anyWord
    if ← sign? "::" then
      return (← g.read (.imports false)).map (.segment w.text)
    if ← word? "as" then
      let newName ← nameOr ["_"]
      return some (.renamed w.text newName.text)
    return some (.name w.text)
  else if startsSign "*" ts then
    sign "*"
    return some .all
  else importGroup g rooted

/-- Reads the imports of an item: `none` if a path in them starts with `::` below braces. -/
def importItem (g : Below) : Reader (Option UseTree) := do
  word "use"
  let root ← sign? "::"
  let tree ← g.read (.imports (!root))
  sign ";"
  return tree

/-- Reads the declaration of an external crate. -/
def externCrate : Reader Unit := do
  word "extern"
  word "crate"
  discard (nameOr ["self"])
  if ← word? "as" then discard (nameOr ["_"])
  sign ";"

/-! ## Traits and methods -/

/-- Whether the use of a code generator comes first. -/
def startsGenerator (ts : List Token) : Bool :=
  startsName ts || startsWordOf ["self", "super", "crate"] ts || startsSign "::" ts

/-- Reads the use of a code generator, which a semicolon ends unless it has braces; `named` allows
a name before the group. -/
def generator (named : Bool) : Reader Unit := do
  discard plainPath
  sign "!"
  if named then
    if ← sees (fun ts => startsName ts || startsWord "try" ts) then discard anyWord
  let d ← anyGroup
  if d ≠ .brace then sign ";"

/-- Reads an item of a trait. -/
def traitItem (g : Below) : Reader Unit := do
  discard (outerAttributes g)
  let visible ← visibility
  let specialized ← word? "default"
  let ts ← get
  if startsFunction false ts then
    discard (signature g false)
    if !(← sign? ";") then discard (bodyBlock g)
  else if startsWord "const" ts then discard (constant g)
  else if startsWord "type" ts then discard (typeName g ⟨false, true⟩)
  else if !visible && !specialized && startsGenerator ts then generator false
  else failure

/-- Reads an item of an implementation: the function, if it is one with a body. -/
def methodItem (g : Below) : Reader (Option FunctionTree) := do
  let attributes ← outerAttributes g
  let visible ← visibility
  let ts ← get
  let specialized := startsWord "default" ts && !startsSign "!" (ts.drop 1)
  if specialized then discard next
  let ts ← get
  if startsFunction false ts then
    let name ← signature g false
    if ← sign? ";" then return none
    let inner ← bodyBlock g
    return some ⟨attributes ++ inner, name⟩
  else if startsWord "const" ts then discard (constant g)
  else if startsWord "type" ts then discard (typeName g ⟨false, true⟩)
  else if !visible && !specialized && startsGenerator ts then generator false
  else failure
  return none

/-- Reads an item that is defined elsewhere. -/
def foreignItem (g : Below) : Reader Unit := do
  discard (outerAttributes g)
  let visible ← visibility
  let ts ← get
  if startsFunction true ts then
    discard (signature g true)
    if ← sees (startsGroup .brace) then discard (bodyBlock g) else sign ";"
  else if startsWord "static" ts
      || (startsWordOf ["unsafe", "safe"] ts && startsWord "static" (ts.drop 1)) then
    if !startsWord "static" ts then discard next
    word "static"
    discard (word? "mut")
    discard name
    sign ":"
    discard g.type
    if ← sign? "=" then discard g.expr
    sign ";"
  else if startsWord "type" ts then discard (typeName g ⟨true, true⟩)
  else if !visible && startsGenerator ts then generator false
  else failure

/-- Reads braces with attributes of what they belong to and items of some kind. -/
def itemBlock (g : Below) (item : Reader α) : Reader (List Attribute × List α) :=
  within .brace do
    let attributes ← innerAttributes g
    return (attributes, ← manyToEnd item)

/-- Reads a block of items that are defined elsewhere: its inner attributes. -/
def foreignBlock (g : Below) : Reader (List Attribute) := do
  discard (word? "unsafe")
  expect (startsWord "extern")
  convention
  return (← itemBlock g (foreignItem g)).1

/-- Reads a trait, or another name of bounds where `mayAlias` holds: its inner attributes. -/
def traitBody (g : Below) (mayAlias : Bool) : Reader (List Attribute) := do
  word "trait"
  discard name
  discard (generics g)
  if mayAlias then
    if ← sign? "=" then
      discard <| listUntil (fun ts => startsWord "where" ts || startsSign ";" ts) "+"
        (g.read (.bound false true))
      discard (conditions g)
      sign ";"
      return []
  if ← sign? ":" then
    discard <| listUntil (fun ts => startsWord "where" ts || startsGroup .brace ts) "+"
      (g.read (.bound false true))
  discard (conditions g)
  return (← itemBlock g (traitItem g)).1

/-- Whether the generic parameters of an implementation come first rather than a qualified type. -/
def startsGenerics (ts : List Token) : Bool :=
  let after := ts.drop 1
  let later := ts.drop 2
  startsSign "<" ts
    && (startsSignOf [">", "#"] after || startsWord "const" after
      || ((startsLifetime after || startsName after)
        && (startsColon later || startsSignOf [",", ">", "="] later)))

/-- Reads an implementation after its visibility. One that is constant, visible or of something
other than a named trait is skipped. -/
def implementation (g : Below) (attributes : List Attribute) (visible : Bool) : Reader Item := do
  discard (word? "default")
  discard (word? "unsafe")
  word "impl"
  if ← sees startsGenerics then discard (generics g)
  let ts ← get
  let isConst := startsWord "const" ts || (startsSign "?" ts && startsWord "const" (ts.drop 1))
  if isConst then
    discard (sign? "?")
    word "const"
  let ts ← get
  let negative := startsSign "!" ts && !startsGroup .brace (ts.drop 1)
  if negative then sign "!"
  let first ← g.type
  let ofTrait ← word? "for"
  if ofTrait then discard g.type
  else if negative then failure
  discard (conditions g)
  let (inner, functions) ← itemBlock g (methodItem g)
  let isNamed := match first.form with
    | .path _ => true
    | _ => false
  if visible || isConst || (ofTrait && !isNamed) then return .skipped
  return .methods (attributes ++ inner) (functions.filterMap id)

/-! ## All items -/

/-- Reads an item with its attributes. -/
def attributedItem (g : Below) : Reader Item := do
  let attributes ← outerAttributes g
  g.read (.item attributes)

/-- Reads a module. -/
def moduleItem (g : Below) (attributes : List Attribute) : Reader Item := do
  discard (word? "unsafe")
  word "mod"
  let w ← nameOr ["try"]
  if ← sign? ";" then return .moduleFile attributes w.text
  let (inner, items) ← itemBlock g (attributedItem g)
  return .module (attributes ++ inner) w items

/-- Reads a function with its body. -/
def functionItem (g : Below) (attributes : List Attribute) : Reader Item := do
  let name ← signature g false
  if ← sign? ";" then return .skipped
  let inner ← bodyBlock g
  return .function ⟨attributes ++ inner, name⟩

/-- Whether a block of items that are defined elsewhere comes first. -/
def startsForeignBlock (ts : List Token) : Bool :=
  startsWord "extern" ts && startsGroup .brace (dropConvention ts)

/-- Reads an item that starts with `unsafe` and is no function. -/
def unsafeItem (g : Below) (attributes : List Attribute) (visible : Bool) : Reader Item := do
  let after := (← get).drop 1
  if startsWord "trait" after || (startsWord "auto" after && startsWord "trait" (after.drop 1)) then
    discard next
    discard (word? "auto")
    return .other (attributes ++ (← traitBody g false))
  else if startsWord "impl" after then implementation g attributes visible
  else if startsWord "extern" after && !visible then
    return .other (attributes ++ (← foreignBlock g))
  else if startsWord "mod" after then moduleItem g attributes
  else failure

/-- Reads the definition of a code generator. -/
def generatorDefinition : Reader Unit := do
  discard next
  discard name
  if ← sees (startsGroup .paren) then discard next
  discard (group .brace)

/-- Reads an item after its outer attributes. -/
def itemRule (g : Below) (attributes : List Attribute) : Reader Item := do
  let visible ← visibility
  let ts ← get
  let after := ts.drop 1
  let keep (kept : Bool) : Item := if kept then .other attributes else .skipped
  if startsFunction false ts then functionItem g attributes
  else if startsWord "extern" ts then
    if startsWord "crate" after then
      externCrate
      return .other attributes
    else if startsForeignBlock ts && !visible then
      return .other (attributes ++ (← foreignBlock g))
    else failure
  else if startsWord "use" ts then
    return match ← importItem g with
      | some tree => .imports attributes tree
      | none => .skipped
  else if startsWord "static" ts then return keep (← globalVariable g)
  else if startsWord "const" ts then return keep (← constant g)
  else if startsWord "unsafe" ts then unsafeItem g attributes visible
  else if startsWord "mod" ts then moduleItem g attributes
  else if startsWord "type" ts then
    let (name, type) ← typeName g ⟨true, false⟩
    return match type with
      | some type => .synonym attributes name type
      | none => .skipped
  else if startsWord "struct" ts then
    discard next
    let w ← name
    discard (generics g)
    return .struct attributes w (← structBody g)
  else if startsWord "enum" ts then
    discard next
    let w ← name
    discard (generics g)
    discard (conditions g)
    return .enum attributes w (← within .brace (commaList (variant g)))
  else if startsWord "union" ts && startsName after then
    discard next
    discard name
    discard (generics g)
    discard (conditions g)
    discard (fieldsInBraces g)
    return .other attributes
  else if startsWord "trait" ts then return .other (attributes ++ (← traitBody g true))
  else if startsWord "auto" ts && startsWord "trait" after then
    discard next
    return .other (attributes ++ (← traitBody g false))
  else if startsWord "impl" ts || (startsWord "default" ts && !startsSign "!" after) then
    implementation g attributes visible
  else if startsWord "macro" ts then
    generatorDefinition
    return .skipped
  else if !visible && startsGenerator ts then
    generator true
    return .other attributes
  else failure

end ApiDocs.Source
