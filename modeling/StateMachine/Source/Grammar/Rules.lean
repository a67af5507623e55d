import StateMachine.Source.Expr
import StateMachine.Source.Parse

/-!
# Rules of the grammar

Each rule of the grammar is a parser that is given the rules for what is nested in it or follows
it, so that no rule refers to itself. `Rules` collects the rules that others need; the knot is tied
once all of them are written down.
-/

namespace StateMachine.Source

/-- How tightly operators bind, from loosest to tightest. -/
inductive Binding
  | loosest
  | assign
  | range
  | or
  | and
  | compare
  | bitOr
  | bitXor
  | bitAnd
  | shift
  | sum
  | product
  | cast
  deriving DecidableEq

def Binding.rank : Binding → Nat
  | .loosest => 0
  | .assign => 1
  | .range => 2
  | .or => 3
  | .and => 4
  | .compare => 5
  | .bitOr => 6
  | .bitXor => 7
  | .bitAnd => 8
  | .shift => 9
  | .sum => 10
  | .product => 11
  | .cast => 12

inductive BoundKind
  | lifetime
  | capture
  | trait
  deriving DecidableEq

structure Bound where
  kind : BoundKind
  trees : List Tree

inductive PatternKind
  | rest
  | openRange
  | verbatim
  | other
  deriving DecidableEq

structure Pattern where
  kind : PatternKind
  trees : List Tree

/-- The rules for what is nested in a rule or follows it. -/
structure Rules where
  /-- A type; the flag tells whether it may be a sum of bounds. -/
  type : Bool → Parse TypeExpr
  /-- A bound; the flags tell whether it may list what it captures, and whether it may be
  constant. -/
  bound : Bool → Bool → Parse Bound
  pattern : Parse Pattern
  /-- An expression; the flag tells whether it may be a record. Before a block it may not, since
  the brace behind a name opens the block. -/
  expr : Bool → Parse Expr
  unary : Bool → Parse Expr
  trail : Expr → Parse Expr
  /-- The operators that follow an expression and bind at least as tightly as given. -/
  climb : Bool → Expr → Binding → Parse Expr
  /-- The operators that belong to the right side of an operator. -/
  extend : Bool → Expr → Binding → Parse Expr
  /-- An expression at the start of a statement or of an arm, where one that ends in a block may
  stop behind it. -/
  leading : Parse Expr
  statements : Parse (List Tree)
  item : Parse (List Tree)

def Rules.exprTrees (r : Rules) : Parse (List Tree) := Expr.trees <$> r.expr true

def Rules.typeTrees (r : Rules) : Parse (List Tree) := TypeExpr.trees <$> r.type true

/-- A type that is no sum of bounds, as trees. -/
def Rules.tightTypeTrees (r : Rules) : Parse (List Tree) := TypeExpr.trees <$> r.type false

end StateMachine.Source
