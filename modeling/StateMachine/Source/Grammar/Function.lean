import StateMachine.Source.Grammar.Structure
import StateMachine.Source.Grammar.Pattern
import StateMachine.Source.Grammar.Type

/-!
# Functions

The head of a function: words in front, name, parameters, arguments, result and conditions. The
first argument may be the receiver of a method.
-/

namespace StateMachine.Source

open Parse

/-! ### Arguments -/

inductive Input
  | receiver (trees : List Tree)
  | typed (trees : List Tree)
  /-- Three points for all further arguments. -/
  | variadic (trees : List Tree)

def receiver (r : Rules) : Parse (List Tree) := do
  let reference ← ifThen (peekMark "&") (do return (← mark "&") ++ (← optionalLifetime))
  let self := (← optionalWord "mut") ++ (← word "self")
  let type ← ifThen (do return reference.isEmpty && (← peekMark ":"))
    (do return (← mark ":") ++ (← r.typeTrees))
  return reference ++ self ++ type

/-- One argument of a function, behind its attributes. A type with arguments of its own may stand
alone, as if it followed an underscore. -/
def input (r : Rules) : Parse Input := do
  if ← peekMark "..." then return .variadic (← mark "...")
  else
    match ← attempt (receiver r) with
    | some trees => return .receiver trees
    | none =>
      if (← peekIdentifier) && (← peekBehind 1 (peekMark "<")) then
        return .typed ([.word "_", .mark ':' .alone] ++ (← r.typeTrees))
      else
        let front := (← r.pattern).trees ++ (← mark ":")
        if ← peekMark "..." then return .variadic (front ++ (← mark "..."))
        else return .typed (front ++ (← r.typeTrees))

inductive InputsSoFar
  | none
  /-- A receiver and perhaps more. -/
  | receiver
  | others
  deriving DecidableEq

def inputsFrom (r : Rules) (seen : InputsSoFar) : Nat → Parse (List Tree)
  | 0 => return []
  | fuel + 1 => do
    if ← atEnd then return []
    let attrs ← attributeTrees r
    let rest (trees : List Tree) (seen : InputsSoFar) : Parse (List Tree) := do
      if ← atEnd then return attrs ++ trees
      else
        let c ← mark ","
        return attrs ++ trees ++ c ++ (← inputsFrom r seen fuel)
    match ← input r, seen with
    | .variadic trees, _ => return attrs ++ trees ++ (← ifThen (do return !(← atEnd)) (mark ","))
    | .receiver _, .receiver => throw .secondReceiver
    | .receiver _, .others => throw .misplacedReceiver
    | .receiver trees, .none => rest trees .receiver
    | .typed trees, .none => rest trees .others
    | .typed trees, seen => rest trees seen

/-- The arguments of a function between parentheses, its result and the conditions on it. -/
def functionTypes (r : Rules) : Parse (List Tree) :=
  groupThen .paren (do inputsFrom r .none ((← ahead).length + 1)) (do
    return (← result r.typeTrees) ++ (← conditions r))

/-! ### Heads -/

/-- Whether the head of a function is ahead. Some functions are called safe. -/
def peekSignature (allowSafe : Bool) : Parse Bool :=
  peekBehind 0 (do
    let _ ← optionalWord "const"
    let _ ← optionalWord "async"
    let _ ← if allowSafe && (← peekWord "safe") then word "safe" else optionalWord "unsafe"
    let _ ← abi
    peekWord "fn")

/-- The head of a function, and whether it is called safe. -/
def signature (r : Rules) (allowSafe : Bool) : Parse (Bool × List Tree) := do
  let front := (← optionalWord "const") ++ (← optionalWord "async") ++ (← optionalWord "unsafe")
  let safe ← ifThen (do return allowSafe && (← peekWord "safe")) (word "safe")
  let named := (← abi) ++ (← word "fn") ++ (← name) ++ (← parameterTrees r)
  return (!safe.isEmpty, front ++ safe ++ named ++ (← functionTypes r))

end StateMachine.Source
