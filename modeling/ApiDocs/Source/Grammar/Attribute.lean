import ApiDocs.Source.Grammar.Goal

/-!
# Attributes and plain paths

Attributes are read with what stands in their brackets, since documentation and serialisation are
written there. A plain path is one of an attribute, a visibility or a call with an exclamation mark.
-/

namespace ApiDocs.Source

/-- The words besides names that may be a segment of a path. -/
def pathWords : List String := ["super", "self", "Self", "crate"]

/-- Reads a path of plain segments, with `::` between them and maybe before the first: its only
segment, if it has no more than one and no `::`. -/
def plainPath : Reader (Option Word) := do
  let rooted ← sign? "::"
  let first ← nameOr pathWords
  let rest ← manyWhile (startsSign "::") do
    sign "::"
    nameOr pathWords
  return if !rooted && rest.isEmpty then some first else none

/-- Reads the name of an attribute. -/
def metaName : Reader (Option String) := do
  if ← word? "unsafe" then return some "unsafe"
  let word ← plainPath
  return word.bind fun w => if w.raw then none else some w.text

/-- Reads the value of an attribute after its name. A literal that is all there is stands for
itself; another attribute may not be a value. -/
def metaValue (g : Below) : Reader (Option String) := do
  sign "="
  let ts ← get
  match (attempt literal).run ts with
  | some (some text, []) => set ([] : List Token); return text
  | _ =>
    if startsSign "#" ts && startsGroup .bracket (ts.drop 1) then failure
    match ← g.expr with
    | .text value => return some value
    | _ => return none

/-- Reads the inside of an attribute. -/
def metaItem (g : Below) : Reader Meta := do
  let name ← metaName
  match ← get with
  | .group _ inner :: rest => set rest; return ⟨name, .list inner⟩
  | ts =>
    if startsSign "=" ts then return ⟨name, .value (← metaValue g)⟩
    else return ⟨name, .bare⟩

/-- Reads an attribute of what follows it. -/
def outerAttribute (g : Below) : Reader Attribute := do
  sign "#"
  return ⟨false, ← within .bracket (metaItem g)⟩

/-- Reads all attributes of what follows them. -/
def outerAttributes (g : Below) : Reader (List Attribute) :=
  manyWhile (startsSign "#") (outerAttribute g)

/-- Reads all attributes of what they stand in. -/
def innerAttributes (g : Below) : Reader (List Attribute) :=
  manyWhile (fun ts => startsSign "#" ts && startsSign "!" (ts.drop 1)) do
    sign "#"
    sign "!"
    return ⟨true, ← within .bracket (metaItem g)⟩

/-- Reads braces with attributes of what they belong to and statements: the attributes. -/
def bodyBlock (g : Below) : Reader (List Attribute) :=
  within .brace do
    let attributes ← innerAttributes g
    g.read .statements
    return attributes

/-- Reads braces with statements only. -/
def plainBlock (g : Below) : Reader Unit :=
  within .brace (g.read .statements)

end ApiDocs.Source
