import StateMachine.Source.Grammar.Bound

/-!
# Types

Types are told apart by what they start with. A path may turn out to be a call of a macro, or the
first of several bounds.
-/

namespace StateMachine.Source

open Parse

def typeStarts : List Sought :=
  [.token "for", .group .paren, .token "fn", .token "unsafe", .token "extern", .identifier,
    .token "::", .token "<", .token "dyn", .group .bracket, .token "*", .token "&", .token "!",
    .token "impl", .token "_", .lifetime]

/-- What a type can start with behind the parameters for all of which it is stated. -/
def boundTypeStarts : List Sought :=
  [.identifier, .token "fn", .token "unsafe", .token "extern", .token "super", .token "self",
    .token "Self", .token "crate"]

/-! ### Sums of bounds -/

/-- The bounds of an object type: at least one has to be a trait. -/
def objectBounds (r : Rules) (allowPlus : Bool) : Parse (List Tree) := do
  let bounds ← boundList r allowPlus false false
  if bounds.all (·.1.kind != .trait) then throw .objectWithoutTrait
  else return Entry.trees Bound.trees bounds

/-- The type of some value with given traits: at least one has to be named. -/
def opaqueType (r : Rules) (allowPlus : Bool) : Parse TypeExpr := do
  let opening ← word "impl"
  let bounds ← boundList r allowPlus true true
  if bounds.all (·.1.kind != .trait) then throw .opaqueWithoutTrait
  else return .other (opening ++ Entry.trees Bound.trees bounds)

/-- An object type with its word. With a star behind the word it is kept as it stands. -/
def objectType (r : Rules) (allowPlus : Bool) : Parse TypeExpr := do
  let before ← ahead
  let opening ← word "dyn"
  let star ← optionalMark "*"
  let bounds ← objectBounds r allowPlus
  if star.isEmpty then return .other (opening ++ bounds) else return .other (← since before)

/-- The bounds that follow a first one, each behind a plus sign. -/
def moreBounds (r : Rules) : Parse (List Tree) :=
  repeated (peekMark "+") (do return (← mark "+") ++ (← r.bound false false).trees)

/-! ### Parentheses -/

/-- A first bound in parentheses with the bounds that follow it. -/
def sumFrom (r : Rules) (first : List Tree) : Parse TypeExpr := do
  let more ← moreBounds r
  if more.isEmpty then return .bound true first
  else return .other (.group .paren first :: more)

/-- The inside of parentheses around types. -/
inductive ParenType
  | optional (trees : List Tree)
  | single (type : TypeExpr)
  | tuple (trees : List Tree)

def parenTypeInner (r : Rules) : Parse ParenType := do
  if ← atEnd then return .tuple []
  else if ← peekLifetime then return .single (.other (← objectBounds r true))
  else if ← peekMark "?" then return .optional (← traitBound r false).2
  else
    let first ← r.type true
    if ← peekMark "," then
      let c ← mark ","
      return .tuple (first.trees ++ c ++ (← commaTrees r.typeTrees))
    else return .single first

/-- Types between parentheses: several, or one alone, which may be the first of several bounds. -/
def parenType (r : Rules) (allowPlus : Bool) : Parse TypeExpr :=
  inGroupThen .paren (parenTypeInner r) (fun
    | .tuple inner => return .other [.group .paren inner]
    | .optional inner => sumFrom r inner
    | .single first => do
      if allowPlus && (← peekMark "+") then
        match first with
        | .path _ inner => sumFrom r inner
        | .bound _ inner => sumFrom r inner
        | t => return .other [.group .paren t.trees]
      else return .other [.group .paren first.trees])

/-! ### Functions -/

def argumentName (words : List String) : Parse (List Tree) := do
  if ((← peekIdentifier) || (← peekOneOf words)) && (← peekBehind 1 (peekMarkBut ":" ["::"])) then
    return .word (← anyWord) :: (← mark ":")
  else return []

/-- Whether the receiver of a method is ahead behind the word that makes it mutable. -/
def peekMutableSelf : Parse Bool := do
  return (← peekWord "mut") && (← peekBehind 1 (peekWord "self"))

/-- One argument of a function type. The first may be the receiver of a method; a mutable one is
kept as it stands. -/
def functionTypeArgument (r : Rules) (first : Bool) : Parse (List Tree) := do
  let before ← ahead
  if first && (← peekMutableSelf) then
    let _ ← word "mut"
    let name ← argumentName ["_", "self"]
    let _ ← if name.isEmpty then word "self" else r.typeTrees
    since before
  else
    let name ← argumentName (if first then ["_", "self"] else ["_"])
    if first && !frontIsSelf name && (← peekMutableSelf) then
      let _ ← word "mut"
      let _ ← word "self"
      since before
    else return name ++ (← r.typeTrees)
where
  frontIsSelf (name : List Tree) : Bool := frontWord? name == some "self"

def peekVariadic : Parse Bool := do
  let named := ((← peekIdentifier) || (← peekWord "_")) && (← peekBehind 1 (peekMark ":")) &&
    (← peekBehind 2 (peekMark "..."))
  return (← peekMark "...") || named

/-- Three points for all further arguments, with a name if they have one. -/
def variadic : Parse (List Tree) := do
  let name ← ifThen (do return (← peekIdentifier) || (← peekWord "_")) (do
    return .word (← anyWord) :: (← mark ":"))
  return name ++ (← mark "...") ++ (← optionalMark ",")

def functionTypeArguments (r : Rules) (first : Bool) : Nat → Parse (List Tree)
  | 0 => return []
  | fuel + 1 => do
    if ← atEnd then return []
    let attrs ← attributeTrees r
    if ← peekVariadic then return attrs ++ (← variadic)
    else
      let argument ← functionTypeArgument r first
      if ← atEnd then return attrs ++ argument
      else
        let c ← mark ","
        return attrs ++ argument ++ c ++ (← functionTypeArguments r false fuel)

/-- The interface that a function is called by, if it is named. -/
def abi : Parse (List Tree) :=
  ifThen (peekWord "extern") (do return (← word "extern") ++ (← ifThen peekString literal))

def functionType (r : Rules) (bound : List Tree) : Parse TypeExpr := do
  let opening := (← optionalWord "unsafe") ++ (← abi) ++ (← word "fn")
  let types ← groupThen .paren (do functionTypeArguments r true ((← ahead).length + 1))
    (result r.tightTypeTrees)
  return .other (bound ++ opening ++ types)

/-! ### The other types -/

/-- Something that only the compiler knows, as it stands. -/
def builtin : Parse (List Tree) := do
  let before ← ahead
  let _ ← word "builtin"
  let _ ← mark "#"
  let _ ← identifier
  let _ ← inGroup .paren anything
  since before

def peekBuiltin : Parse Bool := do
  return (← peekWord "builtin") && (← peekBehind 1 (peekMark "#"))

/-- A type that starts with a path: the path itself, a call of a macro, or a sum of bounds. -/
def pathType (r : Rules) (bound : List Tree) (allowPlus : Bool) : Parse TypeExpr := do
  let p ← qualifiedPath r false
  if p.isQualified then return .other p.trees
  else
    match ← macroCall? p with
    | some trees => return .other trees
    | none =>
      let first := bound ++ p.trees
      if allowPlus && (← peekMark "+") then
        let plus ← mark "+"
        let stop : Parse Bool := do return !(← peekBound false)
        let more ← chain (r.bound false false) "+" stop
        return .other (first ++ plus ++ Entry.trees Bound.trees more)
      else if bound.isEmpty then return .path p.isName p.trees
      else return .bound false first

def sliceType (r : Rules) : Parse TypeExpr := do
  return .other (← group .bracket (do
    let item ← r.typeTrees
    if ← peekMark ";" then return item ++ (← mark ";") ++ (← r.exprTrees) else return item))

def referenceType (r : Rules) : Parse TypeExpr := do
  let _ ← mark "&"
  let life ← optionalLifetime
  let mutable ← optionalWord "mut"
  return .reference life (!mutable.isEmpty) (← r.type false)

def pointerType (r : Rules) : Parse TypeExpr := do
  let star ← mark "*"
  if ← peekOneOf ["const", "mut"] then
    return .other (star ++ .word (← anyWord) :: (← r.tightTypeTrees))
  else expected [.token "const", .token "mut"]

def typeRule (r : Rules) (allowPlus : Bool) : Parse TypeExpr := do
  let bound ← optionalBinder r
  let functions := ["fn", "unsafe", "extern"]
  if !bound.isEmpty && !((← peekPathWord) || (← peekOneOf functions)) then expected boundTypeStarts
  else if ← peekGroup .paren then parenType r allowPlus
  else if ← peekOneOf functions then functionType r bound
  else if ← peekBuiltin then return .other (bound ++ (← builtin))
  else if ← peekPathStart then pathType r bound allowPlus
  else if ← peekWord "dyn" then objectType r allowPlus
  else if ← peekGroup .bracket then sliceType r
  else if ← peekMark "*" then pointerType r
  else if ← peekMark "&" then referenceType r
  else if ← peekMark "!" then return .other (← mark "!")
  else if ← peekWord "impl" then opaqueType r allowPlus
  else if ← peekWord "_" then return .other (← word "_")
  else if ← peekLifetime then return .other (← objectBounds r true)
  else expected typeStarts

end StateMachine.Source
