import ApiDocs.Json.Basic
import ApiDocs.Kind
import ApiDocs.Resolution

/-!
# Expanding structures

A structure is expanded into its fields, nested ones included, each with an example value. The types
that are being expanded are kept on a stack, so that a type that contains itself is not expanded
again inside itself.
-/

namespace ApiDocs

/-- A field of an expanded structure. -/
structure Field where
  /-- The name when written out. -/
  name : String
  /-- The kind of its values. -/
  kind : Kind
  /-- The type, as written in the source. -/
  typeName : String
  /-- Whether it is required. -/
  required : Bool
  /-- An example value, as a text. -/
  value : String
  /-- The text of its documentation. -/
  remark : String
  /-- The fields of its type, or of the type of its elements. -/
  children : List Field

/-- The expansion of a structure: its fields, and an example with a value for each. -/
structure Expansion where
  /-- The fields. -/
  fields : List Field := []
  /-- The members of the example. -/
  members : List (String × Json) := []

namespace Expansion

/-- The example of the structure. -/
def sample (e : Expansion) : Json :=
  .object e.members

/-- Puts a field in the place of the one with the same name, or at the end. -/
def put (field : Field) : List Field → List Field
  | [] => [field]
  | old :: rest => if old.name = field.name then field :: rest else old :: put field rest

/-- Adds a field with its example. One with the same name is replaced. -/
def push (e : Expansion) (field : Field) (value : Json) : Expansion :=
  ⟨put field e.fields, Json.put field.name value e.members⟩

/-- Adds fields whose examples are taken from the given members. -/
def spliceFields (e : Expansion) : List Field → List (String × Json) → Expansion
  | [], _ => e
  | f :: rest, members =>
    spliceFields (e.push f ((Json.get? f.name members).getD .null)) rest (Json.take f.name members)

/-- Adds all fields of another expansion. -/
def splice (e : Expansion) (other : Expansion) : Expansion :=
  spliceFields e other.fields other.members

end Expansion

mutual

/-- A field below the name `outer`, and all fields in it. -/
def Field.flatten (outer : String) : Field → List Field
  | ⟨name, kind, typeName, required, value, remark, children⟩ =>
    let dotted := if outer.isEmpty then name else outer ++ "." ++ name
    ⟨dotted, kind, typeName, required, value, remark, []⟩ :: flattenFields dotted children

/-- All fields below the name `outer`, nested ones after the one around them. -/
def flattenFields (outer : String) : List Field → List Field
  | [] => []
  | f :: rest => f.flatten outer ++ flattenFields outer rest

end

/-- All fields of an expansion, nested ones after the one around them and with dotted names. -/
def Expansion.allFields (e : Expansion) : List Field :=
  flattenFields "" e.fields

/-! ## Building fields -/

/-- What is known of a field apart from its type. -/
structure Slot where
  /-- The name when written out. -/
  name : String
  /-- Whether it is required. -/
  required : Bool
  /-- The text of its documentation. -/
  remark : String

/-- A field without children. -/
def Slot.field (slot : Slot) (kind : Kind) (typeName value : String) : Field :=
  ⟨slot.name, kind, typeName, slot.required, value, slot.remark, []⟩

/-- The example value of a number or truth value, as a text and as JSON. -/
def Kind.zero? : Kind → Option (String × Json)
  | .int | .long => some ("0", Json.whole 0)
  | .number => some ("0.0", .number (.double Decimal.Double.zero))
  | .boolean => some ("false", .bool false)
  | _ => none

/-- A field of a scalar type. A text has the documentation as its example. -/
def Slot.scalar (slot : Slot) (typeName : String) : Field × Json :=
  let kind := Kind.ofTypeName typeName
  match kind.zero? with
  | some (text, value) => (slot.field kind typeName text, value)
  | none => (slot.field kind typeName "", .string slot.remark)

/-- The example of an element of a scalar type. -/
def scalarElement (typeName : String) : Json :=
  match (Kind.ofTypeName typeName).zero? with
  | some (_, value) => value
  | none => .string ""

/-- What a type name stands for. -/
inductive Target where
  /-- A structure. -/
  | struct (id : Nat) (path : ModulePath)
  /-- Another name of a type, with the unit in which that stands. -/
  | synonym (type : TypeExpr) (unit : Nat) (path : ModulePath)
  /-- An enumeration. -/
  | enum (variants : List String)
  /-- Nothing that is known. -/
  | missing

/-- The name of the first variant, or an empty text. -/
def firstVariant (variants : List String) : String :=
  variants.headD ""

/-! ## Walking -/

/-- The state of a walk through types. -/
structure Walker where
  /-- The session. -/
  session : Session
  /-- The stacks of types that were being expanded, each with the innermost one first. The present
  stack comes first, then the one before its last change, and so on. -/
  history : List (List ModulePath) := []

namespace Walker

/-- The types that are being expanded, innermost first. -/
def expanding (w : Walker) : List ModulePath :=
  w.history.headD []

/-- Whether a type is being expanded. -/
def holds (w : Walker) (path : ModulePath) : Bool :=
  w.expanding.contains path

/-- Puts a type on the stack. -/
def enter (w : Walker) (path : ModulePath) : Walker :=
  { w with history := (path :: w.expanding) :: w.history }

/-- Takes the innermost type from the stack. -/
def leave (w : Walker) : Walker :=
  { w with history := w.expanding.tail :: w.history }

/-- Reports events. -/
def note (w : Walker) (events : Journal) : Walker :=
  { w with session := w.session.note events }

/-- What a type name in a unit stands for. -/
def target (loader : Loader) (name : String) (unit : Nat) (w : Walker) : Target × Walker :=
  match w.session.resolve loader name unit with
  | (none, s) => (.missing, { w with session := s })
  | (some id, s) =>
    let w := { w with session := s }
    match s.catalog.decls[id]? with
    | none => (.missing, w)
    | some d =>
      match d.body with
      | .struct _ => (.struct id d.path, w)
      | .synonym type => (.synonym type d.unit d.path, w)
      | .enum variants => (.enum variants, w)

end Walker

/-- The ways to go on below a type. Each may fail to come to an end. -/
structure Walk where
  /-- Expands a structure. -/
  expand : Nat → Walker → Option (Option Expansion × Walker)
  /-- Builds a field of a type that stands in a unit, inside the structure named `owner`. -/
  build : Slot → String → TypeExpr → Nat → Walker → Option ((Field × Json) × Walker)
  /-- Expands the structure that a type in a unit stands for. -/
  flatten : TypeExpr → Nat → Walker → Option (Option Expansion × Walker)

namespace Walk

/-- Never comes to an end. -/
def stop : Walk where
  expand _ _ := none
  build _ _ _ _ _ := none
  flatten _ _ _ := none

/-- Builds a field whose type is a name. -/
def buildNamed (loader : Loader) (below : Walk) (slot : Slot) (owner name : String) (unit : Nat)
    (w : Walker) : Option ((Field × Json) × Walker) :=
  match w.target loader name unit with
  | (.struct id path, w) =>
    let field := slot.field .object name ""
    if w.holds path then some ((field, .object []), w.note [.cycle name])
    else
      (below.expand id w).map fun
        | (some e, w) => (({ field with children := e.fields }, e.sample), w)
        | (none, w) => ((field, .object []), w)
  | (.synonym type unit path, w) =>
    if w.holds path then
      some ((slot.field (Kind.ofTypeName name) name "", .string slot.remark), w)
    else
      (below.build slot owner type unit (w.enter path)).map fun ((field, value), w) =>
        (({ field with typeName := name }, value), w.leave)
  | (.enum variants, w) =>
    let sample := if slot.remark.isEmpty then firstVariant variants else slot.remark
    some ((slot.field .string name "", .string sample), w)
  | (.missing, w) =>
    some ((slot.field (Kind.ofTypeName name) name "", .string slot.remark), w)

/-- The children and the example of a sequence whose element type is a name that is no scalar. -/
def elementNamed (loader : Loader) (below : Walk) (slot : Slot) (owner name : String) (unit : Nat)
    (w : Walker) : Option ((List Field × Json) × Walker) :=
  match w.target loader name unit with
  | (.struct id path, w) =>
    if w.holds path then some (([], .array []), w)
    else
      (below.expand id w).map fun
        | (some e, w) => ((e.fields, .array [e.sample]), w)
        | (none, w) => (([], .array []), w)
  | (.synonym type unit path, w) =>
    if w.holds path then some (([], .array []), w)
    else
      (below.build slot owner type unit (w.enter path)).map fun ((field, value), w) =>
        ((field.children, .array [value]), w.leave)
  | (.enum variants, w) => some (([], .array [.string (firstVariant variants)]), w)
  | (.missing, w) => some (([], .array []), w)

/-- Builds a field. -/
def buildWith (loader : Loader) (below : Walk) (slot : Slot) (owner : String) (type : TypeExpr)
    (unit : Nat) (w : Walker) : Option ((Field × Json) × Walker) :=
  match type with
  | .named name =>
    if Kind.isScalarName name then some (slot.scalar name, w)
    else buildNamed loader below slot owner name unit w
  | .sequence element =>
    let field := slot.field .array (TypeExpr.sequence element).text ""
    match element with
    | .named name =>
      if Kind.isScalarName name then some ((field, .array [scalarElement name]), w)
      else if ModulePath.lastSegment name = owner then some ((field, .array []), w)
      else
        (elementNamed loader below slot owner name unit w).map fun ((children, value), w) =>
          (({ field with children := children }, value), w)
    | .sequence inner =>
      (buildWith loader below slot owner (.sequence inner) unit w).map fun ((nested, value), w) =>
        (({ field with children := nested.children }, .array [value]), w)
    | .map _ _ => some ((field, .array [.object []]), w)
    | .any | .unknown => some ((field, .array []), w)
  | .map key value => some ((slot.field .object (TypeExpr.map key value).text "", .object []), w)
  | .any => some ((slot.field .object TypeExpr.any.text "", .string slot.remark), w)
  | .unknown => some ((slot.field .object TypeExpr.unknown.text "", .string slot.remark), w)

/-- Builds a declared field. One that is written out as a text keeps the name of its type. -/
def buildField (loader : Loader) (below : Walk) (f : FieldDecl) (unit : Nat) (owner : String)
    (w : Walker) : Option ((Field × Json) × Walker) :=
  let slot : Slot := ⟨f.name, f.required, f.comment⟩
  if f.asText then
    (buildWith loader below slot owner (.named "String") unit w).map fun ((field, value), w) =>
      (({ field with typeName := f.type.text }, value), w)
  else buildWith loader below slot owner f.type unit w

/-- Expands the structure that a type stands for, through any other names of it. -/
def flattenWith (loader : Loader) (below : Walk) (type : TypeExpr) (unit : Nat) (w : Walker) :
    Option (Option Expansion × Walker) :=
  match type with
  | .named name =>
    match w.target loader name unit with
    | (.struct id path, w) => if w.holds path then some (none, w) else below.expand id w
    | (.synonym type unit path, w) =>
      if w.holds path then some (none, w)
      else (below.flatten type unit (w.enter path)).map fun (e, w) => (e, w.leave)
    | (_, w) => some (none, w)
  | _ => some (none, w)

/-- Adds a declared field to an expansion. -/
def addField (loader : Loader) (below : Walk) (d : TypeDecl) (acc : Expansion × Walker)
    (f : FieldDecl) : Option (Expansion × Walker) :=
  let (e, w) := acc
  if f.flatten then
    (flattenWith loader below f.type d.unit w).map fun
      | (some other, w) => (e.splice other, w)
      | (none, w) => (e, w)
  else
    (buildField loader below f d.unit d.name w).map fun ((field, value), w) =>
      (e.push field value, w)

/-- Expands a declaration that is a structure. -/
def expandWith (loader : Loader) (below : Walk) (id : Nat) (w : Walker) :
    Option (Option Expansion × Walker) :=
  match w.session.catalog.decls[id]? with
  | none => some (none, w)
  | some d =>
    match d.body with
    | .struct fields =>
      ((fields.filter (!·.skip)).foldlM (addField loader below d)
        ({}, (w.note [.expanding d.path]).enter d.path)).map fun (e, w) => (some e, w.leave)
    | _ => some (none, w.note [.notStruct d.path])

/-- A walk that goes on below at most `n` types, one inside the other. -/
def upTo (loader : Loader) : Nat → Walk
  | 0 => stop
  | n + 1 =>
    let below := upTo loader n
    { expand := expandWith loader below
      build := buildWith loader below
      flatten := flattenWith loader below }

/-- Attempts of growing depth. -/
structure Search (α : Type) where
  /-- What an attempt of a given depth gives, if it comes to an end. -/
  attempt : Nat → Option α
  /-- The depth of the next attempt. -/
  depth : Nat

namespace Search

/-- Goes one level deeper. -/
def deepen {α : Type} (search : Search α) : Search α :=
  { search with depth := search.depth + 1 }

/-- What the first attempt that comes to an end gives. -/
def result? {α : Type} (search : Search α) : Option α :=
  match search.attempt search.depth with
  | some a => some a
  | none => search.deepen |>.result?
partial_fixpoint

end Search

end Walk

/-- Expands a declaration, if it is a structure, below as many types as it takes. -/
def Walker.expand (loader : Loader) (id : Nat) (w : Walker) :
    Option (Option Expansion × Walker) :=
  let search : Walk.Search (Option Expansion × Walker) :=
    ⟨fun n => (Walk.upTo loader n).expand id w, w.session.catalog.decls.length + 1⟩
  -- the first attempt is enough unless types are loaded on the way
  match search.attempt search.depth with
  | some result => some result
  | none => search.deepen.result?

namespace Session

/-- Expands a declaration, if it is a structure. -/
def expand (loader : Loader) (id : Nat) (s : Session) : Option Expansion × Session :=
  match Walker.expand loader id ⟨s, []⟩ with
  | some (e, w) => (e, w.session)
  | none => (none, s)

/-- Resolves a type name in a unit and expands its declaration. -/
def expandNamed (loader : Loader) (name : String) (unit : Nat) (s : Session) :
    Option Expansion × Session :=
  match s.resolve loader name unit with
  | (some id, s) => s.expand loader id
  | (none, s) => (none, s)

end Session

end ApiDocs
