import StateMachine.Source.Grammar.Atom
import StateMachine.Source.Grammar.Item

/-!
# Statements

A block holds bindings, items, calls of macros and expressions. A statement that does not end by
itself needs a semicolon before another one.
-/

namespace StateMachine.Source

open Parse

/-- A binding of names to a value. If the pattern may not fit, a block says what to do then. -/
def binding (r : Rules) (attrs : List Tree) : Parse (List Tree) := do
  let pattern := (← word "let") ++ (← r.pattern).trees
  let type ← ifThen (peekMark ":") (do return (← mark ":") ++ (← r.typeTrees))
  let value ← ifThen (peekMark "=") (do
    let equals ← mark "="
    let e ← r.expr true
    let other ← ifThen (do return !e.endsInBrace && (← peekWord "else")) (do
      return (← word "else") ++ (← block r))
    return equals ++ e.trees ++ other)
  return attrs ++ pattern ++ type ++ value ++ (← mark ";")

def peekItem : Parse Bool := do
  let function : Parse Bool := peekOneOf ["unsafe", "extern", "fn"]
  let closure : Parse Bool := do
    return (← peekGroup .brace) || (← peekOneOf ["static", "move"]) || (← peekMark "|") ||
      ((← peekWord "async") && !(← peekBehind 1 function))
  let words := ["pub", "extern", "use", "fn", "mod", "type", "struct", "enum", "trait", "impl",
    "macro"]
  let follows (text : String) (test : Parse Bool) : Parse Bool := do
    return (← peekWord text) && (← peekBehind 1 test)
  return (← peekOneOf words) || (← follows "crate" (do return !(← peekMark "::"))) ||
    (← follows "static" (do return (← peekWord "mut") || (← peekIdentifier))) ||
    (← follows "const" (do return !(← closure))) ||
    (← follows "unsafe" (do return !(← peekGroup .brace))) || (← follows "async" function) ||
    (← follows "union" peekIdentifier) || (← follows "auto" (peekWord "trait")) ||
    (← follows "default" (peekOneOf ["unsafe", "impl"]))

/-- What the path of a macro turns out to be the start of. -/
inductive MacroStart
  | item
  /-- A call with braces that is a statement of its own. -/
  | statement (path : List Tree)
  | other

/-- Looks whether the path of a macro is ahead, and moves behind it if it starts a statement. -/
def macroStart : Parse MacroStart := do
  let before ← ahead
  match ← attempt wordPath with
  | none => return .other
  | some path =>
    let named : Parse Bool := do return (← peekIdentifier) || (← peekWord "try")
    let goesOn : Parse Bool := do return (← peekDot) || (← peekMark "?")
    if !(← peekMark "!") then
      moveTo before
      return .other
    else if ← peekBehind 1 named then
      moveTo before
      return .item
    else if (← peekBehind 1 (peekGroup .brace)) && !(← peekBehind 2 goesOn) then
      return .statement (wordPathTrees path)
    else
      moveTo before
      return .other

/-- An expression as a statement, and whether it is ended. -/
def exprStatement (r : Rules) (attrs : List Tree) : Parse (Bool × List Tree) := do
  let e := (← r.leading).attach attrs
  let semicolon ← optionalMark ";"
  return (!semicolon.isEmpty || !e.needsSemicolon, e.trees ++ semicolon)

/-- A statement, and whether it is ended. -/
def statement (r : Rules) : Parse (Bool × List Tree) := do
  let before ← ahead
  let attrs ← attributeTrees r
  let item : Parse (Bool × List Tree) := do
    moveTo before
    return (true, ← r.item)
  match ← macroStart with
  | .statement path =>
    return (true, attrs ++ path ++ (← mark "!") ++ (← anyGroup) ++ (← optionalMark ";"))
  | .item => item
  | .other =>
    if ← peekWord "let" then return (true, ← binding r attrs)
    else if ← peekItem then item
    else exprStatement r attrs

def statementsFrom (r : Rules) : Nat → Parse (List Tree)
  | 0 => return []
  | fuel + 1 => do
    let semicolons ← repeated (peekMark ";") (mark ";")
    if ← atEnd then return semicolons
    let (ended, trees) ← statement r
    if ← atEnd then return semicolons ++ trees
    else if ended then return semicolons ++ trees ++ (← statementsFrom r fuel)
    else throw .unendedStatement

def statementsRule (r : Rules) : Parse (List Tree) := do
  statementsFrom r ((← ahead).length + 1)

end StateMachine.Source
