import StateMachine.Source.Grammar.Path

/-!
# Bounds and parameters

Parameters between angles stand for lifetimes, types and constants, and have bounds. A bound is a
lifetime, a trait, or a list of what is captured; a trait may be bound for all of some parameters
at once. Conditions state bounds of types apart from the parameters.
-/

namespace StateMachine.Source

open Parse

/-! ### Parameters -/

inductive ParameterKind
  | lifetime
  | type
  | const
  deriving DecidableEq

structure Parameter where
  attributes : List Tree
  kind : ParameterKind
  name : List Tree
  /-- The bounds or the type, with the colon before them. -/
  bounds : List Tree
  /-- The default, with the equals sign before it. -/
  default : List Tree

namespace Parameter

variable (p : Parameter)

/-- The parameter without default, as in the head of an implementation. -/
def implTrees : List Tree :=
  p.attributes ++ (if p.kind = .const then [.word "const"] else []) ++ p.name ++ p.bounds

def trees : List Tree := p.implTrees ++ p.default

end Parameter

/-- Parameters between angles, lifetimes before the others, if there are any. -/
def parameterList (spelled : Parameter → List Tree) (ps : List (Entry Parameter)) : List Tree :=
  if ps.isEmpty then []
  else .mark '<' .alone ::
    lifetimesFirst (ps.map (fun e => ((e.1.kind == .lifetime, spelled e.1), e.2))) ++
    [.mark '>' .alone]

/-- Bounds with their colon. A colon without bounds is dropped. -/
def colonBounds (bound : Parse (List Tree)) (stop : Parse Bool) : Parse (List Tree) := do
  let colon ← optionalMark ":"
  if colon.isEmpty then return []
  else
    let found ← chain bound "+" stop
    return if found.isEmpty then [] else colon ++ Entry.trees id found

/-- A bound that may be constant but cannot list what it captures, as trees. -/
def Rules.boundTrees (r : Rules) : Parse (List Tree) := Bound.trees <$> r.bound false true

def lifetimeParameter (attrs : List Tree) : Parse Parameter := do
  let name ← lifetime
  let stop : Parse Bool := do return (← atEnd) || (← peekMark ",") || (← peekMark ">")
  return ⟨attrs, .lifetime, name, ← colonBounds lifetime stop, []⟩

def typeParameter (r : Rules) (attrs : List Tree) : Parse Parameter := do
  let name ← name
  let stop : Parse Bool := do
    return (← atEnd) || (← peekMark ",") || (← peekMark ">") || (← peekMark "=")
  let bounds ← colonBounds r.boundTrees stop
  let default ← ifThen (peekMark "=") (do return (← mark "=") ++ (← r.typeTrees))
  return ⟨attrs, .type, name, bounds, default⟩

def constParameter (r : Rules) (attrs : List Tree) : Parse Parameter := do
  let _ ← word "const"
  let name ← name
  let type := (← mark ":") ++ (← r.typeTrees)
  let default ← ifThen (peekMark "=") (do return (← mark "=") ++ (← constArgument r))
  return ⟨attrs, .const, name, type, default⟩

/-- A parameter; `others` tells what to do if it is none of the three kinds. -/
def parameter (r : Rules) (others : List Tree → Parse Parameter) : Parse Parameter := do
  let attrs ← attributeTrees r
  if ← peekLifetime then lifetimeParameter attrs
  else if ← peekIdentifier then typeParameter r attrs
  else if ← peekWord "const" then constParameter r attrs
  else others attrs

/-- A parameter of an item. An underscore may stand for a type without a name. -/
def itemParameter (r : Rules) : Parse Parameter :=
  parameter r (fun attrs => do
    if ← peekWord "_" then return ⟨attrs, .type, ← word "_", [], []⟩
    else expected [.lifetime, .identifier, .token "const"])

def parameters (r : Rules) : Parse (List (Entry Parameter)) := do
  if ← peekMark "<" then
    let _ ← mark "<"
    let ps ← list (itemParameter r) "," (peekMark ">")
    let _ ← mark ">"
    return ps
  else return []

def parameterTrees (r : Rules) : Parse (List Tree) :=
  parameterList Parameter.trees <$> parameters r

/-- The parameters for all of which something is stated, in the order in which they stand. -/
def binder (r : Rules) : Parse (List Tree) := do
  let opening := (← word "for") ++ (← mark "<")
  let one := parameter r (fun _ => expected [.identifier, .lifetime, .token "const"])
  let ps ← list one "," (peekMark ">")
  return opening ++ Entry.trees Parameter.trees ps ++ (← mark ">")

def optionalBinder (r : Rules) : Parse (List Tree) := ifThen (peekWord "for") (binder r)

/-! ### Bounds -/

/-- One thing that is captured, and whether it is a lifetime. -/
def captured : Parse (Bool × List Tree) := do
  if ← peekLifetime then return (true, ← lifetime)
  else if (← peekIdentifier) || (← peekWord "Self") then return (false, [.word (← anyWord)])
  else expected [.lifetime, .identifier, .token ">"]

/-- What is captured, with commas between, up to the closing angle, for as many as `fuel`
allows. -/
def capturedFrom : Nat → Parse (List (Entry (Bool × List Tree)))
  | 0 => return []
  | fuel + 1 => do
    if ← peekMark ">" then return []
    let first ← captured
    if ← peekMark "," then
      let c ← mark ","
      return (first, c) :: (← capturedFrom fuel)
    else if ← peekMark ">" then return [(first, [])]
    else expected [.token ",", .token ">"]

def capture : Parse (List Tree) := do
  let opening := (← word "use") ++ (← mark "<")
  let entries ← capturedFrom ((← ahead).length + 1)
  return opening ++ lifetimesFirst entries ++ (← mark ">")

/-- A path with the arguments of a function, if it has them. -/
def traitPath (r : Rules) : Parse Path := do
  let p ← simplePath r false
  if p.endsBare && (← peekFunction) then
    let _ ← optionalMark "::"
    return p.withArguments (← functionArguments r)
  else return p

/-- The word that makes a bound constant, alone or between brackets, if it is there. -/
def constModifier (allowed : Bool) : Parse Bool := do
  let refuse (text : String) : Parse Bool :=
    if allowed then pure true else throw (.misplacedModifier text)
  if ← peekGroup .bracket then
    let _ ← inGroup .bracket (word "const")
    refuse "[const]"
  else if ← peekWord "const" then
    let _ ← word "const"
    refuse "const"
  else return false

/-- A trait as a bound, and whether it is constant. -/
def traitBound (r : Rules) (consts : Bool) : Parse (Bool × List Tree) := do
  let early ← optionalBinder r
  let isConst ← constModifier consts
  let question ← optionalMark "?"
  let late ← ifThen (pure (early.isEmpty && !question.isEmpty)) (optionalBinder r)
  let path ← traitPath r
  if !question.isEmpty && !(early.isEmpty && late.isEmpty) then throw .optionalBinder
  else return (isConst, question ++ early ++ path.trees)

/-- A bound. One that is constant is kept as it stands. -/
def boundRule (r : Rules) (captures consts : Bool) : Parse Bound := do
  if ← peekLifetime then return ⟨.lifetime, ← lifetime⟩
  else if ← peekWord "use" then
    let trees ← capture
    if captures then return ⟨.capture, trees⟩ else throw .misplacedCapture
  else
    let before ← ahead
    let inParens ← peekGroup .paren
    let (isConst, trees) ←
      if inParens then inGroup .paren (traitBound r consts) else traitBound r consts
    if isConst then return ⟨.trait, ← since before⟩
    else return ⟨.trait, if inParens then [.group .paren trees] else trees⟩

def peekBound (consts : Bool) : Parse Bool := do
  return (← peekAnyWord) || (← peekMark "::") || (← peekMark "?") || (← peekLifetime) ||
    (← peekGroup .paren) || (consts && (← peekGroup .bracket))

/-- Bounds with plus signs between them; if only one is allowed, plus signs are left alone. -/
def boundList (r : Rules) (allowPlus captures consts : Bool) : Parse (List (Entry Bound)) := do
  let first ← r.bound captures consts
  if allowPlus && (← peekMark "+") then
    let plus ← mark "+"
    let rest ← chain (r.bound captures consts) "+" (do return !(← peekBound consts))
    return (first, plus) :: rest
  else return [(first, [])]

/-! ### Conditions -/

def endOfConditions : Parse Bool := do
  return (← atEnd) || (← peekGroup .brace) || (← peekMark ",") || (← peekMark ";") ||
    (← peekMarkBut ":" ["::"]) || (← peekMark "=")

def condition (r : Rules) : Parse (List Tree) := do
  if (← peekLifetime) && (← peekBehind 1 (peekMark ":")) then
    let subject := (← lifetime) ++ (← mark ":")
    let stop : Parse Bool := do return (← endOfConditions) || (← peekMark ":")
    return subject ++ Entry.trees id (← chain lifetime "+" stop)
  else
    let subject := (← optionalBinder r) ++ (← r.typeTrees) ++ (← mark ":")
    return subject ++ Entry.trees id (← chain r.boundTrees "+" endOfConditions)

/-- Whether what is ahead reads as parameters rather than as a path with a qualified start. -/
def peekParameters : Parse Bool := do
  let named := (← peekBehind 1 peekLifetime) || (← peekBehind 1 peekIdentifier)
  let endsName : Parse Bool := do
    return (← peekMark ">") || (← peekMark ",") || (← peekMarkBut ":" ["::"]) || (← peekMark "=")
  return (← peekMark "<") && ((← peekBehind 1 (peekMark ">")) || (← peekBehind 1 (peekMark "#")) ||
    (named && (← peekBehind 2 endsName)) || (← peekBehind 1 (peekWord "const")))

def conditions (r : Rules) : Parse (List Tree) := do
  if ← peekWord "where" then
    let opening ← word "where"
    if ← peekParameters then throw .conditionParameters
    let found ← chain (condition r) "," endOfConditions
    return if found.isEmpty then [] else opening ++ Entry.trees id found
  else return []

end StateMachine.Source
