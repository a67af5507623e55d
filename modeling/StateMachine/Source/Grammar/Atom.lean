import StateMachine.Source.Grammar.Control
import StateMachine.Source.Grammar.Type

/-!
# Expressions without operators

Literals, paths, calls of macros, records, tuples, arrays, closures, jumps and ranges without a
start, besides the expressions that end in a block.
-/

namespace StateMachine.Source

open Parse

def peekExpr : Parse Bool := do
  let word := (← peekAnyWord) && !(← peekWord "as")
  let group := (← peekGroup .paren) || (← peekGroup .bracket) || (← peekGroup .brace)
  let operator := (← peekMarkBut "!" ["!="]) || (← peekMarkBut "-" ["-=", "->"]) ||
    (← peekMarkBut "*" ["*="]) || (← peekMarkBut "|" ["|="]) || (← peekMarkBut "&" ["&="])
  let path := (← peekMarkBut "<" ["<=", "<<="]) || (← peekMark "::")
  return word || group || operator || path || (← peekLiteral) || (← peekMark "..") ||
    (← peekLifetime) || (← peekMark "#")

/-! ### Groups -/

/-- Items with commas between them, and whether a comma stands last. -/
def items (r : Rules) : Parse (List Expr × Bool) := do
  let entries ← commaList (r.expr true)
  return (entries.map Prod.fst, entries.getLast?.any (!·.2.isEmpty))

/-- Items between parentheses: one alone is in parentheses, several are a tuple. -/
def tupleExpr (r : Rules) : Parse Expr := do
  match ← inGroup .paren (items r) with
  | ([e], false) => return .paren e
  | (es, trailing) => return .other .tuple [.group .paren (Expr.itemTrees es trailing)]

def callArguments (r : Rules) : Parse (List Tree) := group .paren (commaTrees r.exprTrees)

def arrayExpr (r : Rules) : Parse Expr :=
  inGroup .bracket (do
    if ← atEnd then return .array [] false
    let first ← r.expr true
    if ← atEnd then return .array [first] false
    else if ← peekMark "," then
      let _ ← mark ","
      let (rest, trailing) ← items r
      return .array (first :: rest) (trailing || rest.isEmpty)
    else if ← peekMark ";" then
      let semicolon ← mark ";"
      let count ← r.exprTrees
      return .other .repeated [.group .bracket (first.trees ++ semicolon ++ count)]
    else expected [.commaOrSemicolon])

/-! ### Paths -/

def recordField (r : Rules) : Parse (List Tree) := do
  let attrs ← attributeTrees r
  let (numbered, field) ← member
  if numbered || (← peekMark ":") then
    return attrs ++ field ++ (← mark ":") ++ (← r.exprTrees)
  else return attrs ++ field

/-- The fields of a record, for as many as `fuel` allows. The record that the other fields come
from ends them. -/
def recordFieldsFrom (r : Rules) : Nat → Parse (List Tree)
  | 0 => return []
  | fuel + 1 => do
    if ← atEnd then return []
    if ← peekMark ".." then
      return (← mark "..") ++ (← ifThen (do return !(← atEnd)) r.exprTrees)
    let field ← recordField r
    if ← atEnd then return field
    else
      let c ← mark ","
      return field ++ c ++ (← recordFieldsFrom r fuel)

/-- An expression that starts with a path: the path itself, a call of a macro or a record. -/
def pathExpr (r : Rules) (records : Bool) : Parse Expr := do
  let p ← qualifiedPath r true
  match ← macroCall? p with
  | some trees => return .other .macroCall trees
  | none =>
    if records && (← peekGroup .brace) then
      let fields ← group .brace (do recordFieldsFrom r ((← ahead).length + 1))
      return .other .record (p.trees ++ fields)
    else return .other .path p.trees

/-! ### Ranges -/

def rangeStops : List String :=
  [",", ";", "?", "=", "+", "/", "%", "^", ">", "<=", "!=", "-=", "*=", "&=", "|=", "<<="]

/-- Whether nothing follows that could be the end of a range. -/
def noRangeEnd (records : Bool) : Parse Bool := do
  let trees ← ahead
  return trees.isEmpty || rangeStops.any (fun text => (takeMark text.toList trees).isSome) ||
    (← peekDot) || (!records && (← peekGroup .brace)) || (← peekWord "as")

def rangeRest (r : Rules) (records : Bool) (start : Option Expr) : Parse Expr := do
  let (closed, marks) ← rangeMarks
  let front := (start.map Expr.trees).getD []
  if !closed && (← noRangeEnd records) then return .openRange (front ++ marks)
  else
    let stop ← r.extend records (← r.unary records) .range
    match closed, start with
    | true, some a => return .range a stop
    | _, _ => return .openRange (front ++ marks ++ stop.trees)

/-! ### Closures -/

/-- One argument of a closure. The attributes of one that is kept as it stands are lost. -/
def closureArgument (r : Rules) : Parse (List Tree) := do
  let attrs ← attributeTrees r
  let p ← r.pattern
  if ← peekMark ":" then return attrs ++ p.trees ++ (← mark ":") ++ (← r.typeTrees)
  else if p.kind = .verbatim then return p.trees
  else return attrs ++ p.trees

def peekClosure : Parse Bool := do
  let behindAsync : Parse Bool := do return (← peekMark "|") || (← peekWord "move")
  return (← peekMark "|") || (← peekOneOf ["move", "static"]) ||
    ((← peekWord "for") && (← peekBehind 1 peekParameters)) ||
    ((← peekWord "const") && !(← peekBehind 1 (peekGroup .brace))) ||
    ((← peekWord "async") && (← peekBehind 1 behindAsync))

/-- A closure. If its result has a type, its body is a block. -/
def closure (r : Rules) (records : Bool) : Parse Expr := do
  let words := (← optionalBinder r) ++ (← optionalWord "const") ++ (← optionalWord "static") ++
    (← optionalWord "async") ++ (← optionalWord "move")
  let left ← mark "|"
  let arguments ← list (closureArgument r) "," (peekMark "|")
  let front := words ++ left ++ Entry.trees id arguments ++ (← mark "|")
  if ← peekMark "->" then
    return .other .closure (front ++ (← mark "->") ++ (← r.typeTrees) ++ (← block r))
  else return .other .closure (front ++ (← r.expr records).trees)

/-! ### Jumps -/

/-- A jump out of a loop or a block, with a label and a value if there are any. Where no record can
stand, a brace opens no value, but the value itself may be a record. -/
def breakJump (r : Rules) (records : Bool) : Parse Expr := do
  let jump ← word "break"
  if (← peekLifetime) && (← peekBehind 1 (peekMark ":")) then
    let _ ← r.expr true
    throw .labelledJump
  let label ← optionalLifetime
  let valued : Parse Bool := do return (← peekExpr) && (records || !(← peekGroup .brace))
  return .other .breakJump (jump ++ label ++ (← ifThen valued r.exprTrees))

/-- A jump behind a word that may take a value along. -/
def valueJump (r : Rules) (text : String) (form : Form) : Parse Expr := do
  return .other form ((← word text) ++ (← ifThen peekExpr r.exprTrees))

/-- A call that takes the place of the one around it, as it stands. -/
def becomeJump (r : Rules) : Parse Expr := do
  let before ← ahead
  let _ ← word "become"
  let _ ← r.expr true
  return .other .verbatim (← since before)

def letCondition (r : Rules) (records : Bool) : Parse Expr := do
  let front := (← word "let") ++ (← wholePatternTrees r) ++ (← mark "=")
  let value ← r.climb records (← r.unary records) .compare
  return .other .letCondition (front ++ value.trees)

/-! ### Atoms -/

def peekAsyncBlock : Parse Bool := do
  let opens : Parse Bool := do return (← peekGroup .brace) || (← peekWordBlock "move")
  return (← peekWord "async") && (← peekBehind 1 opens)

/-- Whether the path of a macro or of a module is ahead that starts with a keyword. -/
def peekTryPath : Parse Bool := do
  let follows : Parse Bool := do return (← peekMark "!") || (← peekMark "::")
  return (← peekWord "try") && (← peekBehind 1 follows)

/-- An expression without operators around it. -/
def atom (r : Rules) (records : Bool) : Parse Expr := do
  match takeLiteral (← ahead) with
  | some (l, rest) =>
    moveTo rest
    return .literal l
  | none =>
    if ← peekAsyncBlock then
      return .other .asyncBlock ((← word "async") ++ (← optionalWord "move") ++ (← block r))
    else if ← peekWordBlock "try" then wordBlock "try" .tryBlock (block r)
    else if ← peekClosure then closure r records
    else if ← peekBuiltin then return .other .verbatim (← builtin)
    else if (← peekPathStart) || (← peekTryPath) then pathExpr r records
    else if ← peekGroup .paren then tupleExpr r
    else if ← peekWord "break" then breakJump r records
    else if ← peekWord "continue" then
      return .other .continueJump ((← word "continue") ++ (← optionalLifetime))
    else if ← peekWord "return" then valueJump r "return" .returnJump
    else if ← peekWord "become" then becomeJump r
    else if ← peekGroup .bracket then arrayExpr r
    else if ← peekWord "let" then letCondition r records
    else if ← peekWord "yield" then valueJump r "yield" .yieldJump
    else if ← peekMark ".." then rangeRest r records none
    else if ← peekWord "_" then return .other .infer (← word "_")
    else
      match ← control? r (pure false) with
      | some e => return e
      | none => expected [.expression]

end StateMachine.Source
