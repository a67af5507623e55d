import StateMachine.Source.Grammar.Attribute

/-!
# Paths

A path is a list of segments with double colons between them, and each segment may have arguments
between angles. It may start with a double colon, or with a type between angles. Among the
arguments lifetimes are written first, wherever they stand.
-/

namespace StateMachine.Source

open Parse

structure SegmentArguments where
  trees : List Tree
  /-- Whether there is nothing between the angles. -/
  isEmpty : Bool

structure Segment where
  name : String
  arguments : Option SegmentArguments

def Segment.trees (s : Segment) : List Tree :=
  .word s.name :: (s.arguments.map SegmentArguments.trees).getD []

structure Path where
  /-- What stands before the first segment: nothing, a double colon, or a type between angles. -/
  lead : List Tree
  /-- Whether the path starts with a type between angles. -/
  isQualified : Bool
  segments : List Segment

namespace Path

variable (p : Path)

def trees : List Tree := p.lead ++ colonTrees.intercalate (p.segments.map Segment.trees)

def isPlain : Bool := !p.isQualified && p.segments.all (·.arguments.isNone)

def isName : Bool := p.lead.isEmpty && p.segments.length == 1

def endsBare : Bool := p.segments.getLast?.all (fun s => s.arguments.all SegmentArguments.isEmpty)

def withArguments (a : SegmentArguments) : Path :=
  match p.segments.reverse with
  | last :: front => { p with segments := (⟨last.name, some a⟩ :: front).reverse }
  | [] => p

end Path

/-- Puts lifetimes, which are marked by `true`, before the other entries. A comma is put in where a
lifetime that has none comes to stand before another entry. -/
def lifetimesFirst (entries : List (Entry (Bool × List Tree))) : List Tree :=
  let lifetimes := entries.filter (·.1.1)
  let others := entries.filter (!·.1.1)
  let joined := lifetimes.getLast?.all (!·.2.isEmpty) || others.isEmpty
  Entry.trees Prod.snd lifetimes ++ (if joined then [] else [comma]) ++
    Entry.trees Prod.snd others

/-! ### Arguments -/

/-- The value of a constant parameter: a literal, a name or a block. -/
def constArgument (r : Rules) : Parse (List Tree) := do
  if ← peekLiteral then literal
  else if ← peekIdentifier then name
  else if ← peekGroup .brace then attributedBlock r
  else expected []

def peekConst : Parse Bool := do return (← peekLiteral) || (← peekGroup .brace)

/-- One argument of a segment, and whether it is a lifetime. -/
def pathArgument (r : Rules) : Parse (Bool × List Tree) := do
  if (← peekLifetime) && !(← peekBehind 1 (peekMark "+")) then return (true, ← lifetime)
  else if ← peekConst then return (false, ← constArgument r)
  else
    match ← r.type true with
    | .path true trees =>
      if ← peekMark "=" then
        let equals ← mark "="
        let value ← if ← peekConst then constArgument r else r.typeTrees
        return (false, trees ++ equals ++ value)
      else if ← peekMark ":" then
        let colon ← mark ":"
        let stop : Parse Bool := do return (← peekMark ",") || (← peekMark ">")
        let bounds ← chain (r.bound false true) "+" stop
        return (false, trees ++ colon ++ Entry.trees Bound.trees bounds)
      else return (false, trees)
    | t => return (false, t.trees)

/-- Arguments between angles, after a double colon if there is one. -/
def pathArguments (r : Rules) : Parse SegmentArguments := do
  let colons ← optionalMark "::"
  let left ← mark "<"
  let entries ← list (pathArgument r) "," (peekMark ">")
  let right ← mark ">"
  return ⟨colons ++ left ++ lifetimesFirst entries ++ right, entries.isEmpty⟩

def result (type : Parse (List Tree)) : Parse (List Tree) :=
  ifThen (peekMark "->") (do return (← mark "->") ++ (← type))

/-- The arguments and the result of a path that names a function trait. -/
def functionArguments (r : Rules) : Parse SegmentArguments := do
  let inputs ← group .paren (commaTrees r.typeTrees)
  return ⟨inputs ++ (← result r.tightTypeTrees), false⟩

/-! ### Segments -/

/-- Whether a group in parentheses is ahead, after a double colon if there is one. -/
def peekFunction : Parse Bool := do
  return (← peekGroup .paren) || ((← peekMark "::") && (← peekBehind 2 (peekGroup .paren)))

/-- One segment of a path. In an expression arguments need a double colon before them. -/
def segment (r : Rules) (inExpr : Bool) : Parse Segment := do
  if ← peekOneOf ["super", "self", "crate", "try"] then return ⟨← anyWord, none⟩
  else
    let name ← if ← peekWord "Self" then anyWord else identifier
    let direct := !inExpr && (← peekMarkBut "<" ["<=", "<<="])
    if direct || ((← peekMark "::") && (← peekBehind 2 (peekMark "<"))) then
      return ⟨name, some (← pathArguments r)⟩
    else return ⟨name, none⟩

/-- The segments that follow a path, for as many as `fuel` allows. -/
def segmentsFrom (r : Rules) (inExpr : Bool) (follows : Parse Bool) :
    Nat → Parse (List Segment)
  | 0 => return []
  | fuel + 1 => do
    if ← follows then
      let _ ← mark "::"
      let s ← segment r inExpr
      return s :: (← segmentsFrom r inExpr follows fuel)
    else return []

/-- Segments with double colons between them, for as long as one follows. -/
def segments (r : Rules) (inExpr : Bool) (follows : Parse Bool) : Parse (List Segment) := do
  let first ← segment r inExpr
  return first :: (← segmentsFrom r inExpr follows ((← ahead).length + 1))

/-- A path without a qualified start. -/
def simplePath (r : Rules) (inExpr : Bool) : Parse Path := do
  let colons ← optionalMark "::"
  let follows : Parse Bool := do
    return (← peekMark "::") && !(← peekBehind 2 (peekGroup .paren))
  return ⟨colons, false, ← segments r inExpr follows⟩

def qualifiedPath (r : Rules) (inExpr : Bool) : Parse Path := do
  if ← peekMark "<" then
    let left ← mark "<"
    let self ← r.typeTrees
    let trait ← ifThen (peekWord "as") (do
      return (← word "as") ++ (← simplePath r false).trees)
    let right ← mark ">"
    let colons ← mark "::"
    return ⟨left ++ self ++ trait ++ right ++ colons, true,
      ← segments r inExpr (peekMark "::")⟩
  else simplePath r inExpr

def peekPathStart : Parse Bool := do
  return (← peekPathWord) || (← peekMark "::") || (← peekMark "<")

/-- A call of a macro behind a plain path, if one follows. -/
def macroCall? (p : Path) : Parse (Option (List Tree)) := do
  if p.isPlain && (← peekMarkBut "!" ["!="]) then
    let bang ← mark "!"
    return some (p.trees ++ bang ++ (← anyGroup))
  else return none

end StateMachine.Source
