import StateMachine.Source.Grammar.Atom
import StateMachine.Source.Tree.Lexer

/-!
# Operators

What may stand before, behind and between expressions. Binary operators are read by how tightly
they bind: `climb` goes on while operators bind at least as tightly as a given one, and `extend`
reads what belongs to the right side of an operator.
-/

namespace StateMachine.Source

open Parse

/-! ### Behind an expression -/

/-- The numbers of fields that a literal with points stands for. -/
def fieldNumbers (text : String) : Except GrammarFault (List (List Tree)) :=
  (text.splitOn ".").mapM (fun part =>
    match Tree.ofString? part with
    | some trees => Parse.all fieldNumber trees
    | none => .error .unreadableField)

/-- Takes a literal with a point from the front, as text with its sign. -/
def takeFloat (trees : List Tree) : Option (String × List Tree) :=
  match takeSigned trees with
  | some ((negative, ⟨text, .float _ _⟩), rest) =>
    some ((if negative then "-" else "") ++ text, rest)
  | _ => none

def afterDot (r : Rules) (e : Expr) (dot : List Tree) : Parse Expr := do
  if ← peekWord "await" then
    r.trail (.other .await (e.trees ++ dot ++ (← word "await")))
  else
    let (numbered, field) ← member
    let arguments ← ifThen (do return !numbered && (← peekMark "::"))
      (SegmentArguments.trees <$> pathArguments r)
    if !arguments.isEmpty || (!numbered && (← peekGroup .paren)) then
      r.trail (.other .methodCall (e.trees ++ dot ++ field ++ arguments ++ (← callArguments r)))
    else r.trail (.other .field (e.trees ++ dot ++ field))

/-- The fields that follow a point as one literal. A point at the end of the literal is followed by
another field. -/
def floatFields (r : Rules) (e : Expr) (dot : List Tree) (text : String) : Parse Expr := do
  let trailing := text.toList.getLast? == some '.'
  match fieldNumbers (if trailing then String.ofList text.toList.dropLast else text) with
  | .error fault => throw fault
  | .ok fields =>
    let inner := Expr.other .field (e.trees ++ fields.flatMap (dot ++ ·))
    if trailing then afterDot r inner dot else r.trail inner

/-- What follows a point: numbers of fields as one literal, or a field or a method. -/
def fieldRest (r : Rules) (e : Expr) : Parse Expr := do
  let dot ← mark "."
  match takeFloat (← ahead) with
  | some (text, rest) =>
    moveTo rest
    floatFields r e dot text
  | none => afterDot r e dot

/-- What may follow an expression directly: calls, fields, indices and question marks. -/
def trailRule (r : Rules) (e : Expr) : Parse Expr := do
  if ← peekGroup .paren then r.trail (.other .call (e.trees ++ (← callArguments r)))
  else if !e.isRange && (← peekDot) then fieldRest r e
  else if ← peekGroup .bracket then
    r.trail (.other .index (e.trees ++ (← group .bracket r.exprTrees)))
  else if !e.isRange && (← peekMark "?") then
    r.trail (.other .question (e.trees ++ (← mark "?")))
  else return e

/-! ### Before an expression -/

def referenceExpr (r : Rules) (records : Bool) : Parse Expr := do
  let reference ← mark "&"
  let kind : Parse Bool := peekBehind 1 (peekOneOf ["mut", "const"])
  let raw ← ifThen (do return (← peekWord "raw") && (← kind)) (word "raw")
  let mutable ← optionalWord "mut"
  let const ← ifThen (pure (!raw.isEmpty && mutable.isEmpty)) (word "const")
  let form := if raw.isEmpty then Form.reference else .address
  return .other form (reference ++ raw ++ mutable ++ const ++ (← r.unary records).trees)

/-- An atom with what follows it directly. Of one that is kept as it stands, so are the attributes
before it. -/
def trailedAtom (r : Rules) (records : Bool) (before attrs : List Tree) : Parse Expr := do
  let e ← r.trail (← atom r records)
  if e.isVerbatim then return .other .verbatim (← since before)
  else if !attrs.isEmpty && e.isRange then throw .attributedRange
  else return e.attach attrs

def unaryRule (r : Rules) (records : Bool) : Parse Expr := do
  let before ← ahead
  let attrs ← attributeTrees r
  if ← peekMark "&" then return (← referenceExpr r records).attach attrs
  else if ← peekMark "-" then
    let _ ← mark "-"
    return (Expr.negate (← r.unary records)).attach attrs
  else if (← peekMark "*") || (← peekMark "!") then
    let operator ← if ← peekMark "*" then mark "*" else mark "!"
    return (Expr.other .unary (operator ++ (← r.unary records).trees)).attach attrs
  else trailedAtom r records before attrs

/-! ### Between expressions -/

/-- The binary operators, a longer one before those it starts with. -/
def binaryOperators : List (String × Binding) :=
  [("+=", .assign), ("-=", .assign), ("*=", .assign), ("/=", .assign), ("%=", .assign),
    ("^=", .assign), ("&=", .assign), ("|=", .assign), ("<<=", .assign), (">>=", .assign),
    ("&&", .and), ("||", .or), ("<<", .shift), (">>", .shift), ("==", .compare), ("<=", .compare),
    ("!=", .compare), (">=", .compare), ("+", .sum), ("-", .sum), ("*", .product),
    ("/", .product), ("%", .product), ("^", .bitXor), ("&", .bitAnd), ("|", .bitOr),
    ("<", .compare), (">", .compare)]

def frontOperator? (trees : List Tree) : Option (String × Binding) :=
  binaryOperators.find? (fun op => (takeMark op.1.toList trees).isSome)

def peekAssign : Parse Bool := peekMarkBut "=" ["=>"]

/-- Fails if something follows a cast that would apply to it. -/
def checkCast : Parse Unit := do
  if ← peekDot then
    let call : Parse Bool := do return (← peekGroup .paren) || (← peekMark "::")
    if ← peekBehind 1 (peekWord "await") then throw (.afterCast "`.await`")
    else if (← peekBehind 1 peekIdentifier) && (← peekBehind 2 call) then
      throw (.afterCast "a method call")
    else throw (.afterCast "a field access")
  else if ← peekMark "?" then throw (.afterCast "`?`")
  else if ← peekGroup .bracket then throw (.afterCast "indexing")
  else if ← peekGroup .paren then throw (.afterCast "a function call")

/-- The operators that follow an expression and bind at least as tightly as given. -/
def climbRule (r : Rules) (records : Bool) (left : Expr) (base : Binding) : Parse Expr := do
  if left.isRange then return left
  match frontOperator? (← ahead) with
  | some (op, binding) =>
    if binding.rank < base.rank then return left
    else if binding = .compare && left.isComparison then throw .chainedComparison
    else
      let marks ← mark op
      let right ← r.extend records (← r.unary records) binding
      let form := if binding = .compare then Form.comparison else Form.binary
      r.climb records (.operation form left (marks ++ right.trees)) base
  | none =>
    if base.rank ≤ Binding.assign.rank && (← peekAssign) then
      let equals ← mark "="
      let right ← r.extend records (← r.unary records) .assign
      r.climb records (.operation .assign left (equals ++ right.trees)) base
    else if base.rank ≤ Binding.range.rank && (← peekMark "..") then
      r.climb records (← rangeRest r records (some left)) base
    else if ← peekWord "as" then
      let cast := (← word "as") ++ (← r.tightTypeTrees)
      checkCast
      r.climb records (.operation .cast left cast) base
    else return left

def frontBinding : Parse Binding := do
  match frontOperator? (← ahead) with
  | some (_, binding) => return binding
  | none =>
    if ← peekAssign then return .assign
    else if ← peekMark ".." then return .range
    else if ← peekWord "as" then return .cast
    else return .loosest

/-- The operators that belong to the right side of an operator: those that bind tighter, and for
assignments also those that bind equally. -/
def extendRule (r : Rules) (records : Bool) (right : Expr) (binding : Binding) : Parse Expr := do
  let next ← frontBinding
  if binding.rank < next.rank || (next = .assign && binding = .assign) then
    let before ← ahead
    let wider ← r.climb records right next
    if (← ahead).length < before.length then r.extend records wider binding else return wider
  else return right

def exprRule (r : Rules) (records : Bool) : Parse Expr := do
  r.climb records (← r.unary records) .loosest

/-- An expression at the start of a statement or of an arm. Behind one that ends in a block only a
point or a question mark goes on with it. -/
def leadingRule (r : Rules) : Parse Expr := do
  let attrs ← attributeTrees r
  let first ←
    match ← control? r peekParameters with
    | some e => pure e
    | none => r.unary true
  if first.needsComma then r.climb true (first.attach attrs) .loosest
  else if (← peekDot) || (← peekMark "?") then
    r.climb true ((← r.trail first).attach attrs) .loosest
  else return first.attach attrs

end StateMachine.Source
