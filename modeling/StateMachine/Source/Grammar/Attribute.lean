import StateMachine.Source.Grammar.Rules

/-!
# Attributes

An attribute is a path of plain words between brackets, alone or with a group or a value behind
it. Attributes stand before what they describe, or with an exclamation mark inside it.
-/

namespace StateMachine.Source

open Parse

/-! ### Paths of words -/

def peekPathWord : Parse Bool := do
  return (← peekIdentifier) || (← peekOneOf ["super", "self", "Self", "crate"])

/-- The words of a path, for as many as `fuel` allows. -/
def wordPathFrom : Nat → Parse (List String)
  | 0 => return []
  | fuel + 1 => do
    if ← peekPathWord then
      let name ← anyWord
      if ← peekMark "::" then
        let _ ← mark "::"
        let rest ← wordPathFrom fuel
        if rest.isEmpty then expected [.pathSegment] else return name :: rest
      else return [name]
    else return []

def wordPath : Parse (Bool × List String) := do
  let colons ← optionalMark "::"
  let words ← wordPathFrom ((← ahead).length + 1)
  if words.isEmpty then return (!colons.isEmpty, [← identifier])
  else return (!colons.isEmpty, words)

def colonTrees : List Tree := [.mark ':' .joint, .mark ':' .alone]

def wordPathTrees (p : Bool × List String) : List Tree :=
  (if p.1 then colonTrees else []) ++
    colonTrees.intercalate (p.2.map (fun w => [Tree.word w]))

/-! ### Attributes -/

/-- What stands behind the path of an attribute. -/
inductive AttributeBody
  | word
  /-- A group, as it stands. -/
  | list (delimiter : Delimiter) (inner : List Tree)
  /-- An equals sign and an expression. -/
  | value (value : Expr)

/-- An attribute, or an argument of one that is written in the same way. -/
structure Attribute where
  /-- Whether the path starts with a double colon, and its words. -/
  path : Bool × List String
  body : AttributeBody

namespace Attribute

def isNamed (a : Attribute) (name : String) : Bool := a.path == (false, [name])

def innerTrees (a : Attribute) : List Tree :=
  wordPathTrees a.path ++
    match a.body with
    | .word => []
    | .list d inner => [.group d inner]
    | .value e => .mark '=' .alone :: e.trees

def trees (a : Attribute) : List Tree := [.mark '#' .alone, .group .bracket a.innerTrees]

end Attribute

/-- The value behind an equals sign. A literal that ends the attribute is taken as it stands, so
that its sign belongs to it. -/
def attributeValue (r : Rules) : Parse Expr := do
  match takeSigned (← ahead) with
  | some ((negative, l), []) =>
    moveTo []
    return if negative then .negate (.literal l) else .literal l
  | _ =>
    match ← ahead with
    | .mark '#' _ :: .group .bracket _ :: _ => throw .nestedAttribute
    | _ => r.expr true

def attributeBody (r : Rules) : Parse AttributeBody := do
  match ← ahead with
  | .group d inner :: rest =>
    moveTo rest
    return .list d inner
  | _ =>
    if ← peekMarkBut "=" ["==", "=>"] then
      let _ ← mark "="
      return .value (← attributeValue r)
    else return .word

def attributeInner (r : Rules) : Parse Attribute := do
  let path ← if ← peekWord "unsafe" then pure (false, [← anyWord]) else wordPath
  return ⟨path, ← attributeBody r⟩

def attributes (r : Rules) : Parse (List Attribute) :=
  repeated (peekMark "#") (do
    let _ ← mark "#"
    return [← inGroup .bracket (attributeInner r)])

def attributeTrees (r : Rules) : Parse (List Tree) := do
  return (← attributes r).flatMap Attribute.trees

/-- The trees of the attributes inside something. -/
def innerAttributeTrees (r : Rules) : Parse (List Tree) :=
  repeated (do return (← peekMark "#") && (← peekBehind 1 (peekMark "!"))) (do
    let hash ← mark "#"
    let bang ← mark "!"
    let a ← inGroup .bracket (attributeInner r)
    return hash ++ bang ++ [.group .bracket a.innerTrees])

/-! ### Blocks -/

def block (r : Rules) : Parse (List Tree) := group .brace r.statements

/-- A block with attributes of its own inside the braces. -/
def attributedBlock (r : Rules) : Parse (List Tree) :=
  group .brace (do return (← innerAttributeTrees r) ++ (← r.statements))

end StateMachine.Source
