import ApiDocs.Text.Blank
import ApiDocs.Text.Word

/-!
# Fields of directive lines

A parameter is described by words and quoted texts with blanks between them. The fields may stand
anywhere in a line; the first place where all of them follow each other counts. Since a character
that a field ends with never goes on in the next one, each field is as long as it can be.
-/

namespace ApiDocs.Directive

/-- The kinds of fields. -/
inductive FieldShape where
  /-- Any characters but blanks. -/
  | solid
  /-- Word characters. -/
  | word
  /-- A text in quotes. -/
  | quoted

/-- Takes a run of one or more characters. -/
def takeRun (p : Char → Bool) (cs : List Char) : Option (String × List Char) :=
  match cs.takeWhile p with
  | [] => none
  | run => some (String.ofList run, cs.dropWhile p)

/-- Takes a field. -/
def FieldShape.take : FieldShape → List Char → Option (String × List Char)
  | solid, cs => takeRun (fun c => !Text.isBlank c) cs
  | word, cs => takeRun Text.isWord cs
  | quoted, '"' :: cs =>
    match cs.dropWhile (· != '"') with
    | '"' :: rest => some (String.ofList (cs.takeWhile (· != '"')), rest)
    | _ => none
  | quoted, _ => none

/-- Takes fields with blanks between them from the front of a text. -/
def takeFields : List FieldShape → List Char → Option (List String)
  | [], _ => some []
  | [shape], cs => (shape.take cs).map fun (field, _) => [field]
  | shape :: shapes, cs => do
    let (field, rest) ← shape.take cs
    let (_, rest) ← takeRun Text.isBlank rest
    let fields ← takeFields shapes rest
    return field :: fields

/-- The fields at the first place of a text where they follow each other. -/
def findFields (shapes : List FieldShape) : List Char → Option (List String)
  | [] => none
  | c :: rest =>
    match takeFields shapes (c :: rest) with
    | some fields => some fields
    | none => findFields shapes rest

/-- The fields of a request parameter: name, type, required, value, remark. -/
def requestShapes : List FieldShape := [.solid, .word, .word, .quoted, .quoted]

/-- The fields of a response parameter: name, type, remark. -/
def responseShapes : List FieldShape := [.solid, .word, .quoted]

end ApiDocs.Directive
