import ApiDocs.Json.Printer
import ApiDocs.Yaml.Scalar

/-!
# YAML text of a value

A member of an object stands on a line of its own, and its value after it or below it, two columns
further in. The items of a list start with a hyphen, which stands below the first letter of the key.
-/

namespace ApiDocs.Yaml

/-- The name of a member before its colon. -/
def keyChars (name : String) : List Char :=
  let style := if name.toList.any isBreak then .double else inlineStyle name
  (styled 0 style name.toList).dropLast

/-- The lines of a value that has no parts. -/
def leafLines (indent : Nat) : Json → List Char
  | .string s => textLines indent s
  | .array _ => ['[', ']', '\n']
  | .object _ => ['\x7b', '\x7d', '\n']
  | value => Json.render .compact 0 value ++ ['\n']

mutual

/-- The lines of a value at the front of a line or after a hyphen; all lines but the first are
indented. -/
def valueLines (indent : Nat) : Json → List Char
  | .array (item :: rest) => '-' :: ' ' :: (valueLines (indent + 2) item ++ itemLines indent rest)
  | .object ((name, value) :: rest) =>
    keyChars name ++ ':' :: (memberLines indent value ++ membersLines indent rest)
  | value => leafLines indent value

/-- The lines of further items. -/
def itemLines (indent : Nat) : List Json → List Char
  | [] => []
  | item :: rest =>
    spaces indent ++ '-' :: ' ' :: (valueLines (indent + 2) item ++ itemLines indent rest)

/-- The lines of further members. -/
def membersLines (indent : Nat) : List (String × Json) → List Char
  | [] => []
  | (name, value) :: rest =>
    spaces indent ++ (keyChars name ++
      ':' :: (memberLines indent value ++ membersLines indent rest))

/-- What stands after the colon of a member. -/
def memberLines (indent : Nat) : Json → List Char
  | .array (item :: rest) =>
    '\n' :: (spaces indent ++
      ('-' :: ' ' :: (valueLines (indent + 2) item ++ itemLines indent rest)))
  | .object ((name, value) :: rest) =>
    '\n' :: (spaces (indent + 2) ++ (keyChars name ++
      ':' :: (memberLines (indent + 2) value ++ membersLines (indent + 2) rest)))
  | value => ' ' :: leafLines (indent + 2) value

end

/-- The YAML text of a value. -/
def render (value : Json) : String :=
  String.ofList (valueLines 0 value)

end ApiDocs.Yaml
