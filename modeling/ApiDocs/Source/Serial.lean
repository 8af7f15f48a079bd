import ApiDocs.CaseRule
import ApiDocs.Source.Grammar.File

/-!
# Serialization attributes

The attributes that say how a type is written out: under which name, whether at all, and whether as
a text.
-/

namespace ApiDocs.Source

/-- What the serialization attributes of something say. -/
structure Serial where
  /-- The name under which it is written out. -/
  rename : Option String := none
  /-- The case rule for the names of its fields or variants. -/
  renameAll : Option CaseRule := none
  /-- Whether it is not written out. -/
  skip : Bool := false
  /-- Whether its fields stand in its place. -/
  flatten : Bool := false
  /-- Whether it is written out as its only field. -/
  transparent : Bool := false
  /-- Whether it is written out as a text. -/
  asText : Bool := false

/-- Whether the functions with the given path write a value as a text. -/
def isTextCodec (path : String) : Bool :=
  let lower := Text.lowerAscii path
  Text.mentions lower "string" || Text.mentions lower "display"

namespace Serial

/-- Takes in a bare word. -/
def withWord (s : Serial) (word : String) : Serial :=
  match word with
  | "skip" | "skip_serializing" => { s with skip := true }
  | "flatten" => { s with flatten := true }
  | "transparent" => { s with transparent := true }
  | _ => s

/-- Takes in a word with a text. -/
def withText (s : Serial) (word text : String) : Serial :=
  match word with
  | "rename" => { s with rename := some text }
  | "rename_all" => { s with renameAll := CaseRule.ofName? text }
  | "with" | "serialize_with" => { s with asText := s.asText || isTextCodec text }
  | _ => s

/-- Takes in a name or a case rule that is given for writing apart from reading. -/
def withPair (s : Serial) (word : String) (pair : Option String × Option String) : Serial :=
  match pair with
  | (some "serialize", some text) =>
    if word == "rename" || word == "rename_all" then s.withText word text else s
  | _ => s

/-- Takes in one part of a serialization attribute. -/
def withMeta (s : Serial) (m : Meta) : Serial :=
  match m.name, m.body with
  | some word, .bare => s.withWord word
  | some word, .value (some text) => s.withText word text
  | some word, .list tokens =>
    match parseValues? tokens with
    | some pairs => pairs.foldl (fun s pair => s.withPair word pair) s
    | none => s
  | _, _ => s

/-- Takes in an attribute. One that is malformed says nothing. -/
def withAttribute (s : Serial) (a : Attribute) : Serial :=
  match a.content.name, a.content.body with
  | some "serde_as", .list tokens =>
    { s with asText := s.asText || Token.anyMentions "DisplayFromStr" tokens }
  | some "serde", .list tokens =>
    match parseMetas? tokens with
    | some metas => metas.foldl withMeta s
    | none => s
  | _, _ => s

/-- What some attributes say together. -/
def ofAttributes (attributes : List Attribute) : Serial :=
  attributes.foldl withAttribute {}

end Serial

end ApiDocs.Source
