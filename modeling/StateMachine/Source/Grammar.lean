import StateMachine.Source.Grammar.Operator
import StateMachine.Source.Grammar.Statement

/-!
# The grammar of types, expressions and structures

The rules of the grammar refer to each other through `Rules`; `Rules.upTo` ties the knot for a
given depth. The depth needed is at most a small multiple of the number of trees, since every few
levels read a tree.
-/

namespace StateMachine.Source

open Parse

/-- The rules up to a depth of nesting; deeper down nothing can be read. -/
def Rules.upTo : Nat → Rules
  | 0 =>
    { type := fun _ => expected [.expression]
      bound := fun _ _ => expected [.expression]
      pattern := expected [.expression]
      expr := fun _ => expected [.expression]
      unary := fun _ => expected [.expression]
      trail := fun _ => expected [.expression]
      climb := fun _ _ _ => expected [.expression]
      extend := fun _ _ _ => expected [.expression]
      leading := expected [.expression]
      statements := expected [.expression]
      item := expected [.expression] }
  | depth + 1 =>
    let r := Rules.upTo depth
    { type := typeRule r
      bound := boundRule r
      pattern := patternRule r
      expr := exprRule r
      unary := unaryRule r
      trail := trailRule r
      climb := climbRule r
      extend := extendRule r
      leading := leadingRule r
      statements := statementsRule r
      item := itemRule r }

/-- Rules that are deep enough for the given trees. -/
def Rules.of (trees : List Tree) : Rules := Rules.upTo (8 * Tree.sizeList trees + 8)

def Expr.ofTrees (trees : List Tree) : Except GrammarFault Expr :=
  Parse.all ((Rules.of trees).expr true) trees

def TypeExpr.ofTrees (trees : List Tree) : Except GrammarFault TypeExpr :=
  Parse.all ((Rules.of trees).type true) trees

def Structure.ofTrees (trees : List Tree) : Except GrammarFault Structure :=
  Parse.all (structureItem (Rules.of trees)) trees

end StateMachine.Source
