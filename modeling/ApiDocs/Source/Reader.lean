import ApiDocs.Source.Token

/-!
# Readers of tokens

A reader takes tokens from the front of a row, or fails. The tests ask what stands at the front
without taking it.
-/

namespace ApiDocs.Source

/-- A reader: from the tokens ahead to a value and the tokens left, or failure. -/
abbrev Reader (α : Type) := StateT (List Token) Option α

/-! ## Tests -/

/-- The words that are no names unless they are raw. -/
def keywords : List String :=
  ["_", "abstract", "as", "async", "await", "become", "box", "break", "const", "continue",
    "crate", "do", "dyn", "else", "enum", "extern", "false", "final", "fn", "for", "if", "impl",
    "in", "let", "loop", "macro", "match", "mod", "move", "mut", "override", "priv", "pub", "ref",
    "return", "Self", "self", "static", "struct", "super", "trait", "true", "try", "type",
    "typeof", "unsafe", "unsized", "use", "virtual", "where", "while", "yield"]

/-- Whether a word may name something. -/
def Word.isName (w : Word) : Bool :=
  w.raw || !keywords.contains w.text

/-- Whether a certain word comes first, not raw. -/
def startsWord (text : String) : List Token → Bool
  | .word w :: _ => !w.raw && w.text == text
  | _ => false

/-- Whether one of some words comes first, not raw. -/
def startsWordOf (texts : List String) : List Token → Bool
  | .word w :: _ => !w.raw && texts.contains w.text
  | _ => false

/-- Whether any word comes first. -/
def startsAnyWord : List Token → Bool
  | .word _ :: _ => true
  | _ => false

/-- Whether a name comes first. -/
def startsName : List Token → Bool
  | .word w :: _ => w.isName
  | _ => false

/-- Whether a lifetime comes first. -/
def startsLifetime : List Token → Bool
  | .lifetime _ :: _ => true
  | _ => false

/-- Whether a group comes first. -/
def startsGroup (d : Delimiter) : List Token → Bool
  | .group d' _ :: _ => d == d'
  | _ => false

/-- Drops a sign of one or more punctuation marks, of which all but the last must be joint. -/
def dropMarks? : List Char → List Token → Option (List Token)
  | [], _ => none
  | [c], .mark c' _ :: rest => if c = c' then some rest else none
  | c :: cs, .mark c' true :: rest => if c = c' then dropMarks? cs rest else none
  | _, _ => none

/-- Whether a sign comes first. A longer sign starts with its shorter ones. -/
def startsSign (sign : String) (ts : List Token) : Bool :=
  (dropMarks? sign.toList ts).isSome

/-- Whether one of some signs comes first. -/
def startsSignOf (signs : List String) (ts : List Token) : Bool :=
  signs.any (startsSign · ts)

/-- Whether a colon comes first that is not part of `::`. -/
def startsColon (ts : List Token) : Bool :=
  startsSign ":" ts && !startsSign "::" ts

/-- Whether a dot comes first that is not part of `..`. -/
def startsDot (ts : List Token) : Bool :=
  startsSign "." ts && !startsSign ".." ts

/-- Whether a number comes first. -/
def startsNumber : List Token → Bool
  | .literal ⟨_, .integer _ _⟩ :: _ => true
  | .literal ⟨_, .float⟩ :: _ => true
  | _ => false

/-- Whether a text literal comes first. -/
def startsText : List Token → Bool
  | .literal ⟨_, .string _⟩ :: _ => true
  | _ => false

/-- Whether a literal comes first: a literal token, a truth value, or a negative number. -/
def startsLiteral : List Token → Bool
  | .literal _ :: _ => true
  | .mark '-' _ :: rest => startsNumber rest
  | ts => startsWordOf ["true", "false"] ts

/-! ## Single tokens -/

/-- Whether the tokens ahead pass a test. -/
def sees (test : List Token → Bool) : Reader Bool := do
  return test (← get)

/-- Fails unless the tokens ahead pass a test. -/
def expect (test : List Token → Bool) : Reader Unit := do
  if test (← get) then return else failure

/-- Takes one token. -/
def next : Reader Token := do
  match ← get with
  | t :: rest => set rest; return t
  | [] => failure

/-- Takes a certain word. -/
def word (text : String) : Reader Unit := do
  expect (startsWord text)
  discard next

/-- Takes a certain word if it comes first. -/
def word? (text : String) : Reader Bool := do
  let found ← sees (startsWord text)
  if found then discard next
  return found

/-- Takes any word. -/
def anyWord : Reader Word := do
  match ← next with
  | .word w => return w
  | _ => failure

/-- Takes a name. -/
def name : Reader Word := do
  expect startsName
  anyWord

/-- Takes a name or one of some words. -/
def nameOr (texts : List String) : Reader Word := do
  expect fun ts => startsName ts || startsWordOf texts ts
  anyWord

/-- Takes a lifetime. -/
def lifetime : Reader Unit := do
  expect startsLifetime
  discard next

/-- Takes a lifetime if it comes first. -/
def lifetime? : Reader Bool := do
  let found ← sees startsLifetime
  if found then discard next
  return found

/-- Takes a sign. -/
def sign (s : String) : Reader Unit := do
  match dropMarks? s.toList (← get) with
  | some rest => set rest
  | none => failure

/-- Takes a sign if it comes first. -/
def sign? (s : String) : Reader Bool := do
  match dropMarks? s.toList (← get) with
  | some rest => set rest; return true
  | none => return false

/-- Takes a text literal. -/
def textLiteral : Reader Unit := do
  expect startsText
  discard next

/-- Takes a literal: its text, if it is a text literal. -/
def literal : Reader (Option String) := do
  expect startsLiteral
  match ← next with
  | .literal ⟨_, .string value⟩ => return some value
  | .mark _ _ => discard next; return none
  | _ => return none

/-! ## Groups and rows -/

/-- Takes a group and gives what is inside. -/
def group (d : Delimiter) : Reader (List Token) := do
  match ← next with
  | .group d' inner => if d = d' then return inner else failure
  | _ => failure

/-- Takes a group with any brackets: the brackets. -/
def anyGroup : Reader Delimiter := do
  match ← next with
  | .group d _ => return d
  | _ => failure

/-- Reads all of a row of tokens. -/
def Reader.whole (r : Reader α) (ts : List Token) : Option α :=
  match r.run ts with
  | some (a, []) => some a
  | _ => none

/-- Takes a group and reads all of its inside. -/
def within (d : Delimiter) (r : Reader α) : Reader α := do
  match r.whole (← group d) with
  | some a => return a
  | none => failure

/-- Reads if that succeeds, and takes nothing if it fails. -/
def attempt (r : Reader α) : Reader (Option α) := fun ts =>
  match r.run ts with
  | some (a, rest) => some (some a, rest)
  | none => some (none, ts)

/-- Repeats a step, at most `n` times, until it says that it was the last one. -/
def repeatSteps (step : σ → Reader (σ × Bool)) : Nat → σ → Reader σ
  | 0, _ => failure
  | n + 1, a => do
    let (a, more) ← step a
    if more then repeatSteps step n a else return a

/-- Repeats a step until it says that it was the last one. Each step but the last one takes a
token, so the number of tokens ahead bounds the steps. -/
def iterate (init : σ) (step : σ → Reader (σ × Bool)) : Reader σ := do
  let ts ← get
  repeatSteps step (ts.length + 2) init

/-- Repeats a step that adds to a list, last value first. -/
def steps (step : List α → Reader (List α × Bool)) : Reader (List α) := do
  return (← iterate [] step).reverse

/-- Reads as long as a test holds. -/
def manyWhile (test : List Token → Bool) (r : Reader α) : Reader (List α) :=
  steps fun acc => do
    if ← sees test then return ((← r) :: acc, true) else return (acc, false)

/-- Reads until no token is left. -/
def manyToEnd (r : Reader α) : Reader (List α) :=
  manyWhile (fun ts => !ts.isEmpty) r

/-- Reads values with a sign between any two and maybe after the last, until a test holds. -/
def listUntil (stop : List Token → Bool) (separator : String) (r : Reader α) : Reader (List α) :=
  steps fun acc => do
    if ← sees stop then return (acc, false)
    let a ← r
    if ← sees stop then return (a :: acc, false)
    sign separator
    return (a :: acc, true)

/-- Reads values with commas between and maybe after them, until no token is left. -/
def commaList (r : Reader α) : Reader (List α) :=
  listUntil List.isEmpty "," r

/-- Reads values for as long as a sign follows each of them; none at all where a test holds. -/
def chainUntil (stop : List Token → Bool) (separator : String) (r : Reader α) :
    Reader (List α) :=
  steps fun acc => do
    if ← sees stop then return (acc, false)
    let a ← r
    let more ← sign? separator
    return (a :: acc, more)

end ApiDocs.Source
