import ApiDocs.Text.Blank

/-!
# Module paths

A module path is a text of segments divided by `::`, such as `crate::model::book`. Its first
segment names the crate. This module divides and joins such paths and resolves a path that starts
with `crate`, `self` or `super` against the module in which it is written.
-/

namespace ApiDocs

/-- Segments divided by `::`. -/
abbrev ModulePath := String

namespace ModulePath

/-! ## Division -/

/-- Cuts at every `::`, from left to right. -/
def cutSegments : List Char → List (List Char)
  | [] => [[]]
  | [c] => [[c]]
  | a :: b :: rest =>
    if a = ':' ∧ b = ':' then [] :: cutSegments rest
    else
      match cutSegments (b :: rest) with
      | [] => [[a]]
      | segment :: more => (a :: segment) :: more

/-- The segments of a path, from left to right. -/
def segments (path : ModulePath) : List String :=
  (cutSegments path.toList).map String.ofList

/-- The path of the given segments. -/
def ofSegments (segments : List String) : ModulePath :=
  String.intercalate "::" segments

/-- What stands before and after the last `::`. -/
def cutLast? : List Char → Option (List Char × List Char)
  | [] => none
  | a :: rest =>
    match cutLast? rest with
    | some (qualifier, name) => some (a :: qualifier, name)
    | none =>
      match a, rest with
      | ':', ':' :: name => some ([], name)
      | _, _ => none

/-- What stands before and after the first `::`. -/
def cutFirst? : List Char → Option (List Char × List Char)
  | [] => none
  | [_] => none
  | a :: b :: rest =>
    if a = ':' ∧ b = ':' then some ([], rest)
    else (cutFirst? (b :: rest)).map fun (head, tail) => (a :: head, tail)

/-- A qualified name as its qualifier, if it has one, and the name itself. -/
def splitName (path : ModulePath) : Option ModulePath × String :=
  match cutLast? path.toList with
  | some (qualifier, name) => (some (String.ofList qualifier), String.ofList name)
  | none => (none, path)

/-- The segment after the last `::`. -/
def lastSegment (path : ModulePath) : String :=
  (splitName path).2

/-- The first segment of a path and the rest, which is empty if there is none. -/
def splitHead (path : ModulePath) : String × ModulePath :=
  match cutFirst? path.toList with
  | some (head, tail) => (String.ofList head, String.ofList tail)
  | none => (path, "")

/-- Drops every `::` at the front. -/
def dropLeadingMarks : List Char → List Char
  | ':' :: ':' :: rest => dropLeadingMarks rest
  | cs => cs

/-! ## Joining -/

/-- Writes `rest` below `base`; an empty side leaves the other one. -/
def join (base rest : ModulePath) : ModulePath :=
  if base.isEmpty then rest
  else if rest.isEmpty then base
  else base ++ "::" ++ rest

/-! ## Relative paths -/

/-- Goes up one module for every leading `super`, but never above the crate. -/
def climb (base : List String) : List String → List String
  | [] => base
  | segment :: rest =>
    if segment = "super" then climb (if 1 < base.length then base.dropLast else base) rest
    else base ++ segment :: rest

/-- The segments that a path starting with `crate`, `self` or `super` denotes inside the module
`base`; nothing for any other path. -/
def relative? (base : List String) : List String → Option (List String)
  | [] => none
  | segment :: rest =>
    if segment = "crate" then some (base.take 1 ++ rest)
    else if segment = "self" then some (base ++ rest)
    else if segment = "super" then some (climb base (segment :: rest))
    else none

/-- Resolves `crate`, `self` and `super` at the front of a path written in `module`. Any other path
stays as it is. -/
def absolute (path module : ModulePath) : ModulePath :=
  match relative? (segments module) (segments path) with
  | some found => ofSegments found
  | none => path

end ModulePath

end ApiDocs
