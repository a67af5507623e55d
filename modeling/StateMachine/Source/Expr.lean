import StateMachine.Source.Tree

/-!
# Expressions and types

The expressions and types of declarations, as far as their form matters. Literals, signs,
parentheses, arrays and bounded ranges are told apart because symbols are written with them; of
any other expression only its form and its trees are kept, because it may be the name of a state.
-/

namespace StateMachine.Source

/-- The form of an expression that is not looked into. -/
inductive Form
  | address
  | assign
  | asyncBlock
  | await
  | binary
  | block
  | breakJump
  | call
  | cast
  | closure
  | comparison
  | constBlock
  | continueJump
  | field
  | forLoop
  | index
  | infer
  | conditional
  | letCondition
  | endlessLoop
  | macroCall
  | matching
  | methodCall
  | path
  | reference
  | repeated
  | returnJump
  | record
  | question
  | tryBlock
  | tuple
  | unary
  | unsafeBlock
  | verbatim
  | whileLoop
  | yieldJump
  deriving DecidableEq

namespace Form

def name : Form → String
  | .address => "unknown"
  | .assign => "assign"
  | .asyncBlock => "async"
  | .await => "await"
  | .binary | .comparison => "binary"
  | .block => "block"
  | .breakJump => "break"
  | .call => "call"
  | .cast => "cast"
  | .closure => "closure"
  | .constBlock => "const"
  | .continueJump => "continue"
  | .field => "field"
  | .forLoop => "for_loop"
  | .index => "index"
  | .infer => "infer"
  | .conditional => "if"
  | .letCondition => "let"
  | .endlessLoop => "loop"
  | .macroCall => "macro"
  | .matching => "match"
  | .methodCall => "method_call"
  | .path => "path"
  | .reference => "reference"
  | .repeated => "repeat"
  | .returnJump => "return"
  | .record => "struct"
  | .question => "try"
  | .tryBlock => "try_block"
  | .tuple => "tuple"
  | .unary => "unary"
  | .unsafeBlock => "unsafe"
  | .verbatim => "verbatim"
  | .whileLoop => "while"
  | .yieldJump => "yield"

/-- Whether an expression of this form ends a statement or an arm by its own closing brace. -/
def endsItself : Form → Bool
  | .block | .conditional | .constBlock | .endlessLoop | .forLoop | .matching | .tryBlock
  | .unsafeBlock | .whileLoop => true
  | _ => false

end Form

inductive Expr
  | literal (literal : Literal)
  | negate (inner : Expr)
  | paren (inner : Expr)
  /-- An expression that was put in as a whole, without brackets to be seen. -/
  | group (inner : Expr)
  | array (items : List Expr) (trailing : Bool)
  /-- A range with both ends, the second included. -/
  | range (start stop : Expr)
  | openRange (trees : List Tree)
  /-- An operator behind an expression, with what belongs to it. -/
  | operation (form : Form) (left : Expr) (rest : List Tree)
  | attributed (attributes : List Tree) (inner : Expr)
  | other (form : Form) (trees : List Tree)

inductive TypeExpr
  | reference (lifetime : List Tree) (mutable : Bool) (target : TypeExpr)
  /-- A path without a qualified start; `isName` tells whether it is a single segment. -/
  | path (isName : Bool) (trees : List Tree)
  /-- A single bound, and whether it stands in parentheses. -/
  | bound (inParens : Bool) (trees : List Tree)
  | other (trees : List Tree)

namespace Expr

mutual

def trees : Expr → List Tree
  | .literal l => [.literal l]
  | .negate e => .mark '-' .alone :: e.trees
  | .paren e => [.group .paren e.trees]
  | .group e => e.trees
  | .array items trailing => [.group .bracket (itemTrees items trailing)]
  | .range a b => a.trees ++ [.mark '.' .joint, .mark '.' .joint, .mark '=' .alone] ++ b.trees
  | .openRange ts => ts
  | .operation _ e ts => e.trees ++ ts
  | .attributed attributes e => attributes ++ e.trees
  | .other _ ts => ts

def itemTrees : List Expr → Bool → List Tree
  | [], _ => []
  | e :: rest, trailing =>
    if rest.isEmpty && !trailing then e.trees
    else e.trees ++ .mark ',' .alone :: itemTrees rest trailing

end

def spelling (e : Expr) : String := Tree.spell e.trees

/-- The form of an expression, if it is one that is not looked into. -/
def form? : Expr → Option Form
  | .operation form _ _ => some form
  | .attributed _ e => e.form?
  | .other form _ => some form
  | _ => none

def isRange : Expr → Bool
  | .range _ _ | .openRange _ => true
  | .attributed _ e => e.isRange
  | _ => false

def isComparison (e : Expr) : Bool := e.form? == some .comparison

def isVerbatim (e : Expr) : Bool := e.form? == some .verbatim

def endsInBrace (e : Expr) : Bool :=
  match e.trees.getLast? with
  | some (.group .brace _) => true
  | _ => false

/-- Whether another arm can follow only behind a comma. -/
def needsComma (e : Expr) : Bool := !e.form?.any Form.endsItself

/-- Whether another statement can follow only behind a semicolon. A call of a macro with braces
ends a statement, but not an arm. -/
def needsSemicolon (e : Expr) : Bool :=
  e.needsComma && !(e.form? == some .macroCall && e.endsInBrace)

/-- The operand at the very start of an expression. -/
def leftmost : Expr → Expr
  | .operation _ e _ => e.leftmost
  | e => e

/-- Puts attributes before an expression. Those of an expression that is kept as it stands are
lost. -/
def attach (attributes : List Tree) (e : Expr) : Expr :=
  if attributes.isEmpty || e.leftmost.isVerbatim then e else .attributed attributes e

/-- The expression without the parentheses, groups and attributes around it. -/
def strip : Expr → Expr
  | .paren e => e.strip
  | .group e => e.strip
  | .attributed _ e => e.strip
  | e => e

end Expr

namespace TypeExpr

def trees : TypeExpr → List Tree
  | .reference lifetime mutable target =>
    .mark '&' .alone :: lifetime ++ (if mutable then [.word "mut"] else []) ++ target.trees
  | .path _ ts => ts
  | .bound inParens ts => if inParens then [.group .paren ts] else ts
  | .other ts => ts

def spelling (t : TypeExpr) : String := Tree.spell t.trees

end TypeExpr

end StateMachine.Source
