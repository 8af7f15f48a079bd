import ApiDocs.Decimal.Double

/-!
# JSON values

The values of the JSON data format. The members of an object keep the order in which they were
first written; writing a name again replaces the value and keeps the place.
-/

namespace ApiDocs

/-- A number as JSON text gives it: a whole number of at most 64 bits, or a double. -/
inductive Json.Number where
  /-- A whole number. -/
  | whole (n : Int)
  /-- A double. -/
  | double (d : Decimal.Double)
  deriving DecidableEq

/-- A JSON value. -/
inductive Json where
  /-- `null` -/
  | null
  /-- `true` or `false` -/
  | bool (b : Bool)
  /-- A number. -/
  | number (n : Json.Number)
  /-- A text. -/
  | string (s : String)
  /-- Values in order. -/
  | array (items : List Json)
  /-- Named values in order. -/
  | object (members : List (String × Json))

namespace Json

/-- There is always the empty value. -/
instance : Inhabited Json := ⟨.null⟩

/-- The whole number `n`. -/
def whole (n : Int) : Json := .number (.whole n)

/-- A place for `value` under `name` in an object's members: the place `name` has, or a new last
one. -/
def put (name : String) (value : Json) : List (String × Json) → List (String × Json)
  | [] => [(name, value)]
  | (key, old) :: rest =>
    if key = name then (name, value) :: rest else (key, old) :: put name value rest

/-- The value of an object's member. -/
def get? (name : String) : List (String × Json) → Option Json
  | [] => none
  | (key, value) :: rest => if key = name then some value else get? name rest

/-- The members of an object without `name`. The last one takes its place. -/
def take (name : String) : List (String × Json) → List (String × Json)
  | [] => []
  | (key, value) :: rest =>
    if key = name then rest.getLast?.toList ++ rest.dropLast
    else (key, value) :: take name rest

/-- The value of the member `name`, if this is an object that has one. -/
def member? (j : Json) (name : String) : Option Json :=
  match j with
  | .object members => get? name members
  | _ => none

/-- The text of a string value. -/
def string? : Json → Option String
  | .string s => some s
  | _ => none

/-- The truth value of a boolean. -/
def bool? : Json → Option Bool
  | .bool b => some b
  | _ => none

/-- The items of an array. -/
def array? : Json → Option (List Json)
  | .array items => some items
  | _ => none

/-- The members of an object. -/
def object? : Json → Option (List (String × Json))
  | .object members => some members
  | _ => none

/-- The whole number of a value that is one. -/
def whole? : Json → Option Int
  | .number (.whole n) => some n
  | _ => none

/-- An array of texts. -/
def strings (texts : List String) : Json :=
  .array (texts.map .string)

end Json

end ApiDocs
