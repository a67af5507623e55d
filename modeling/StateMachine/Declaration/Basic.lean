import StateMachine.Declaration.Literal
import StateMachine.Source.Grammar
import StateMachine.Switch
import StateMachine.Text.Similarity

/-!
# Declarations

A machine is declared by arguments (the types of states and symbols, the two ends, and how to lay
out the routine) and by an item with one attribute for each transition. States are expressions,
known by their spelling; every state but the two ends is declared by its first appearance.
-/

namespace StateMachine

open Source Source.Parse

/-! ### Arguments -/

/-- The arguments of a declaration, as far as they are given. -/
structure Arguments where
  state : Option TypeExpr
  symbol : Option TypeExpr
  init : Option Expr
  exit : Option Expr
  maxDelta : Option UInt32
  strategy : Strategy
  allowUnreachable : Bool

def Arguments.none : Arguments := ⟨.none, .none, .none, .none, .none, .auto, false⟩

/-- Reads from the front of trees, with any fault of a declaration. -/
abbrev Read := StateT Cursor (Except Fault)

def parsed {α : Type} (p : Parse α) : Read α := fun c => (p c).mapError Fault.grammar

/-- The largest span of hashes that is laid out densely: an integer that is not zero. -/
def readMaxDelta : Read UInt32 := do
  let (negative, digits) ← parsed (literalOf .integerLiteral (fun
    | .int n _ => some n
    | _ => none))
  match readInteger 0 4294967295 negative digits with
  | .error cause => throw (.integer cause)
  | .ok n => if n = 0 then throw .zeroDelta else pure (UInt32.ofInt n)

def readStrategy : Read Strategy := do
  let (_, name) ← parsed (literalOf .stringLiteral (fun
    | .str s => some s
    | _ => none))
  match name with
  | "auto" => pure .auto
  | "dense" => pure .dense
  | "sparse" => pure .sparse
  | _ => throw .unknownStrategy

def readFlag : Read Bool := do
  let (_, b) ← parsed (literalOf .booleanLiteral (fun
    | .bool b => some b
    | _ => none))
  pure b

namespace Arguments

/-- Reads the value of an argument; a later value takes the place of an earlier one. -/
def put (a : Arguments) (r : Rules) (name : String) : Read Arguments := do
  match name with
  | "state" => return { a with state := ← parsed (r.type true) }
  | "token" => return { a with symbol := ← parsed (r.type true) }
  | "init" => return { a with init := ← parsed (r.expr true) }
  | "exit" => return { a with exit := ← parsed (r.expr true) }
  | "max_delta" => return { a with maxDelta := ← readMaxDelta }
  | "strategy" => return { a with strategy := ← readStrategy }
  | "allow_unreachable" => return { a with allowUnreachable := ← readFlag }
  | _ => throw (.unknownArgument name)

/-- Arguments with commas between them, for as many as `fuel` allows. -/
def readFrom (r : Rules) : Nat → Arguments → Read Arguments
  | 0, a => return a
  | fuel + 1, a => do
    if ← parsed atEnd then return a
    let name ← parsed identifier
    let _ ← parsed (mark "=")
    let a ← a.put r name
    if ← parsed atEnd then return a
    let _ ← parsed (mark ",")
    readFrom r fuel a

end Arguments

/-- What the arguments of a declaration say. -/
structure Header where
  state : TypeExpr
  symbol : TypeExpr
  init : Expr
  exit : Expr
  maxDelta : Option UInt32
  strategy : Strategy
  allowUnreachable : Bool

def required {α : Type} (name : String) : Option α → Except Fault α
  | some a => .ok a
  | none => .error (.missingArgument name)

def Arguments.header (a : Arguments) : Except Fault Header := do
  let state ← required "state" a.state
  let symbol ← required "token" a.symbol
  let init ← required "init" a.init
  let exit ← required "exit" a.exit
  pure ⟨state, symbol, init, exit, a.maxDelta, a.strategy, a.allowUnreachable⟩

def Header.ofTrees (trees : List Tree) : Except Fault Header := do
  let (a, c) ← (Arguments.readFrom (Rules.of trees) (trees.length + 1) .none).run ⟨trees, none⟩
  let h ← a.header
  match c.leftover with
  | some d => throw (.grammar (.leftover (some d)))
  | none => pure h

/-! ### Transitions -/

/-- The guard of a transition, as written. -/
inductive GuardExpr
  | single (value : Expr)
  | set (values : List Expr)
  | range (start stop : Expr)

/-- A transition, as written; it is unconditional if it has no guard. -/
structure Transition where
  source : Expr
  target : Expr
  guard : Option GuardExpr

/-- The guard that an expression stands for: an array is a set, and a range needs both ends and
has to include the second. -/
def GuardExpr.ofExpr : Expr → Except Fault GuardExpr
  | .array items _ => .ok (.set items)
  | .range a b => .ok (.range a b)
  | .openRange _ => .error .openRange
  | .group e => ofExpr e
  | .attributed _ e => ofExpr e
  | e => .ok (.single e)

inductive Argument
  | literal
  | named (value : Attribute)

/-- Reads an argument: a literal, unless it is a truth value before an equals sign, or whatever an
attribute can be. -/
def argument (r : Rules) : Parse Argument := do
  let trees ← ahead
  let flagName :=
    match trees with
    | .word text :: .mark '=' _ :: _ => text == "true" || text == "false"
    | _ => false
  match takeSigned trees, flagName with
  | some (_, rest), false =>
    moveTo rest
    return .literal
  | _, _ =>
    if (← peekAnyWord) || ((← peekMark "::") && (← peekBehind 2 peekAnyWord)) then
      return .named (← attributeInner r)
    else expected [.identifierOrLiteral]

def Argument.listOfTrees (trees : List Tree) : Except Fault (List Argument) :=
  ((Parse.all (commaList (argument (Rules.of trees))) trees).mapError Fault.grammar).map
    (List.map Prod.fst)

/-- The name of the type of an expression in messages. -/
def typeName : Expr → String
  | .literal l =>
    match l.value with
    | .bool _ => "bool"
    | .int _ _ => "int"
    | .float _ _ => "float"
    | .char _ => "char"
    | .str _ => "string"
    | .byte _ => "byte"
    | .byteString => "byte string"
    | .cString => "unknown"
    | .unreadable => "verbatim"
  | .negate (.literal l) =>
    match l.value with
    | .int _ _ => "int"
    | .float _ _ => "float"
    | _ => "unary"
  | .negate _ => "unary"
  | .paren _ => "paren"
  | .group e => typeName e
  | .array _ _ => "array"
  | .range _ _ | .openRange _ => "range"
  | .operation form _ _ => form.name
  | .attributed _ e => typeName e
  | .other form _ => form.name

/-- The value of an argument that has to have one. -/
def argumentValue (a : Attribute) : Except Fault Expr :=
  match a.body with
  | .word => .error (.unexpectedForm .word)
  | .list _ inner => do
    let _ ← Argument.listOfTrees inner
    .error (.unexpectedForm .list)
  | .value e => .ok e

/-- A field of a transition while its arguments are read: not seen yet, or seen with a value or a
fault. -/
abbrev Slot (α : Type) := Option (Option α)

/-- The fields of a transition while its arguments are read, with the faults so far. -/
structure TransitionSlots where
  source : Slot Expr
  target : Slot Expr
  guard : Slot GuardExpr
  faults : List Fault

def transitionFields : List String := ["from", "to", "on"]

/-- Puts a value in a slot that was not seen yet, and tells the fault if there is one. A second
value is not looked at. -/
def fillSlot {α : Type} (name : String) (slot : Slot α) (value : Except Fault α) :
    Slot α × List Fault :=
  match slot, value with
  | some seen, _ => (some seen, [.duplicateField name])
  | none, .ok a => (some (some a), [])
  | none, .error fault => (some none, [fault])

namespace TransitionSlots

def empty : TransitionSlots := ⟨none, none, none, []⟩

def put (s : TransitionSlots) : Argument → TransitionSlots
  | .literal => { s with faults := s.faults ++ [.unexpectedForm .literal] }
  | .named a =>
    let name := "::".intercalate a.path.2
    match name with
    | "from" =>
      let (slot, faults) := fillSlot name s.source (argumentValue a)
      { s with source := slot, faults := s.faults ++ faults }
    | "to" =>
      let (slot, faults) := fillSlot name s.target (argumentValue a)
      { s with target := slot, faults := s.faults ++ faults }
    | "on" =>
      let (slot, faults) := fillSlot name s.guard ((argumentValue a).bind GuardExpr.ofExpr)
      { s with guard := slot, faults := s.faults ++ faults }
    | _ =>
      let suggestion := Text.mostSimilar? name transitionFields
      { s with faults := s.faults ++ [.unknownField name suggestion] }

def missing {α : Type} (name : String) (slot : Slot α) : List Fault :=
  if slot.isNone then [.missingField name] else []

def finish (s : TransitionSlots) : Except (List Fault) Transition :=
  match s.faults ++ missing "from" s.source ++ missing "to" s.target, s.source, s.target with
  | [], some (some source), some (some target) => .ok ⟨source, target, s.guard.join⟩
  | faults, _, _ => .error faults

end TransitionSlots

/-- The transition that an attribute stands for, or every fault in it. -/
def Transition.ofAttribute (a : Attribute) : Except (List Fault) Transition :=
  match a.body with
  | .word => .error [.unexpectedForm .word]
  | .value e => .error [.unexpectedType (typeName e)]
  | .list _ inner =>
    match Argument.listOfTrees inner with
    | .error fault => .error [fault]
    | .ok arguments => (arguments.foldl TransitionSlots.put .empty).finish

/-- Everything that could be read, or the faults of all that could not. -/
def gather {α : Type} : List (Except (List Fault) α) → Except (List Fault) (List α)
  | [] => .ok []
  | r :: rest =>
    match r, gather rest with
    | .ok a, .ok as => .ok (a :: as)
    | .ok _, .error faults => .error faults
    | .error faults, .ok _ => .error faults
    | .error faults, .error more => .error (faults ++ more)

/-! ### Declarations -/

/-- The spellings of the type of owned texts. -/
def ownedTexts : List String := ["String", "std::string::String", "::std::string::String"]

/-- The kind of symbols that a type names, and the type to write for it. Borrowed texts live as
long as the program. -/
def Source.TypeExpr.classify (t : TypeExpr) : Except Fault (Kind × TypeExpr) :=
  let isBorrowedText :=
    match t with
    | .reference _ false target => target.spelling == "str"
    | _ => false
  if isBorrowedText then
    .ok (.str, .reference [.mark '\x27' .joint, .word "static"] false (.path true [.word "str"]))
  else
    let name := String.ofList (t.spelling.toList.filter (· ≠ ' '))
    if name ∈ ownedTexts then .ok (.str, t)
    else
      match Kind.all.find? (fun k => k.name = name ∧ k ≠ .str) with
      | some k => .ok (k, t)
      | none => .error .unsupportedType

/-- A declared machine. -/
structure Declaration where
  /-- The item without the attributes of transitions. -/
  item : Structure
  header : Header
  kind : Kind
  /-- The type to write for symbols. -/
  symbolType : TypeExpr
  transitions : List Transition

/-- Adds expressions whose spelling is not there yet. -/
def addSpellings (known : List Expr) (more : List Expr) : List Expr :=
  more.foldl (fun known e =>
    if known.any (fun s => s.spelling = e.spelling) then known else known ++ [e]) known

/-- The states of a machine: the exit, the initial state, and then those that transitions name,
sources before targets, each by its first appearance. -/
def stateExprs (init exit : Expr) (transitions : List Transition) : List Expr :=
  addSpellings [exit, init] (transitions.flatMap (fun t => [t.source, t.target]))

namespace Declaration

def ofParts (header : Header) (item : Structure) : Except (List Fault) Declaration := do
  let (kind, symbolType) ← header.symbol.classify.mapError ([·])
  let marked := item.attributes.filter (·.isNamed "transition")
  let transitions ← gather (marked.map Transition.ofAttribute)
  if transitions.isEmpty then throw [.noTransitions]
  if header.init.spelling = header.exit.spelling then throw [.sameEnds]
  let rest := item.attributes.filter (fun a => !a.isNamed "transition")
  pure ⟨{ item with attributes := rest }, header, kind, symbolType, transitions⟩

def ofTrees (arguments item : List Tree) : Except (List Fault) Declaration := do
  let header ← (Header.ofTrees arguments).mapError ([·])
  let item ← (Structure.ofTrees item).mapError (fun cause => [.grammar cause])
  ofParts header item

def states (d : Declaration) : List Expr :=
  stateExprs d.header.init d.header.exit d.transitions

/-- The states other than the two ends, in order of their first appearance. -/
def innerStates (d : Declaration) : List Expr := d.states.drop 2

def state? (d : Declaration) (spelling : String) : Option Expr :=
  d.states.find? (fun e => e.spelling = spelling)

end Declaration

end StateMachine
