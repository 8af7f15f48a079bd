import ApiDocs.Source.Reader
import ApiDocs.Source.Tree

/-!
# What the grammar reads

The grammar is written with its recursion open: each rule is given a reader for the goals below it.
What a goal gives is only what the rules around it ask for, such as whether an expression needs a
semicolon after it.
-/

namespace ApiDocs.Source

/-- What matters of a type besides its shape. -/
inductive TypeForm where
  /-- A path without a qualified start; `word` if it is a single segment without `::` before it. -/
  | path (word : Bool)
  /-- Bounds without a keyword before them; `single` if it is one without a plus after it. -/
  | bounds (single : Bool)
  /-- Any other type. -/
  | other
  deriving DecidableEq

/-- A type: its shape and its form. -/
structure TypeRead where
  /-- The shape. -/
  shape : TypeExpr.Written
  /-- The form. -/
  form : TypeForm

/-- The bounds of a type parameter. -/
inductive BoundForm where
  /-- A trait. -/
  | trait
  /-- A lifetime. -/
  | lifetime
  /-- The captured parameters of an unnamed type. -/
  | capture
  deriving DecidableEq

/-- What matters of a pattern. -/
inductive PatternForm where
  /-- All other elements. -/
  | rest
  /-- A range without one of its ends. -/
  | openRange
  /-- Any other pattern. -/
  | other
  deriving DecidableEq

/-- What matters of an expression. -/
inductive ExprForm where
  /-- A block, or a keyword with blocks, that ends a statement. -/
  | block
  /-- A use of a code generator with braces. -/
  | braces
  /-- A range. -/
  | range
  /-- A comparison. -/
  | comparison
  /-- A text literal. -/
  | text (value : String)
  /-- Any other expression. -/
  | other

/-- How tightly an operator binds, from loose to tight. -/
inductive Precedence where
  | jump
  | assign
  | range
  | or
  | and
  | compare
  | bitOr
  | bitXor
  | bitAnd
  | shift
  | sum
  | product
  | cast

/-- The place of an operator in the order of binding. -/
def Precedence.rank : Precedence → Nat
  | .jump => 0
  | .assign => 1
  | .range => 2
  | .or => 3
  | .and => 4
  | .compare => 5
  | .bitOr => 6
  | .bitXor => 7
  | .bitAnd => 8
  | .shift => 9
  | .sum => 10
  | .product => 11
  | .cast => 12

/-- A goal of the grammar, with the type of what reading it gives. -/
inductive Goal : Type → Type where
  /-- A type, maybe with further bounds after a plus. -/
  | type (plus : Bool) : Goal TypeRead
  /-- A bound; whether captures and constant bounds are allowed. -/
  | bound (captures constants : Bool) : Goal BoundForm
  /-- A pattern without alternatives. -/
  | pattern : Goal PatternForm
  /-- An expression; whether it may be a structure with braces. -/
  | expr (structs : Bool) : Goal ExprForm
  /-- An operand, with the operators before and the accesses after it. -/
  | operand (structs : Bool) : Goal ExprForm
  /-- The operators after an operand that bind at least as tightly as given. -/
  | operators (structs : Bool) (base : Precedence) (left : ExprForm) : Goal ExprForm
  /-- An expression in the place of a statement, where a block ends it. -/
  | statementExpr : Goal ExprForm
  /-- Statements up to the end. -/
  | statements : Goal Unit
  /-- An item after its outer attributes. -/
  | item (attributes : List Attribute) : Goal Item
  /-- A tree of imports, `none` if a path in it starts with `::`; whether that is allowed. -/
  | imports (rooted : Bool) : Goal (Option UseTree)

/-- A reader of the goals below a rule. -/
structure Below where
  /-- Reads a goal. -/
  read : {α : Type} → Goal α → Reader α

/-- Reads a type. -/
def Below.type (g : Below) : Reader TypeRead := g.read (.type true)

/-- Reads an expression. -/
def Below.expr (g : Below) : Reader ExprForm := g.read (.expr true)

end ApiDocs.Source
