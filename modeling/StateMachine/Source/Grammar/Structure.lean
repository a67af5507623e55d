import StateMachine.Source.Grammar.Bound

/-!
# Structures

The item that a machine is declared on: a structure with its attributes, parameters and fields.
Everything is kept so that it can be written again, and the parameters in a form from which the
head of an implementation can be written too.
-/

namespace StateMachine.Source

open Parse

/-! ### Visibility -/

/-- Who may see something. -/
def visibility : Parse (List Tree) := do
  if ← peekWord "pub" then
    let pub ← word "pub"
    match ← ahead with
    | .group .paren [.word name] :: rest =>
      if name = "crate" ∨ name = "self" ∨ name = "super" then
        moveTo rest
        return pub ++ [.group .paren [.word name]]
      else return pub
    | .group .paren (.word "in" :: _) :: _ =>
      return pub ++ (← group .paren (do return (← word "in") ++ wordPathTrees (← wordPath)))
    | _ => return pub
  else return []

/-! ### Fields -/

def unnamedField (r : Rules) : Parse (List Tree) := do
  return (← attributeTrees r) ++ (← visibility) ++ (← r.typeTrees)

def unnamedFields (r : Rules) : Parse (List Tree) := commaTrees (unnamedField r)

/-- Whether the fields of a field without a name are ahead. -/
def peekNestedFields : Parse Bool := do
  return (← peekWord "struct") ||
    ((← peekWord "union") && (← peekBehind 1 (peekGroup .brace)))

/-- Fields between braces, for as many levels of fields without a name as `fuel` allows. The fields
of such a field are kept as they stand. -/
def namedFieldsTo (r : Rules) : Nat → Parse (List Tree)
  | 0 => return []
  | fuel + 1 => commaTrees (do
    let front := (← attributeTrees r) ++ (← visibility)
    let unnamed ← peekWord "_"
    let field := (← nameOr ["_"]) ++ (← mark ":")
    if unnamed && (← peekNestedFields) then
      let before ← ahead
      let _ ← anyWord
      let _ ← inGroup .brace (namedFieldsTo r fuel)
      return front ++ field ++ (← since before)
    else return front ++ field ++ (← r.typeTrees))

def namedFields (r : Rules) : Parse (List Tree) := do
  namedFieldsTo r (Tree.sizeList (← ahead) + 1)

/-! ### Structures -/

inductive Fields
  | named (inner : List Tree)
  | unnamed (inner : List Tree)
  | unit

/-- A structure with everything in front of it. -/
structure Structure where
  attributes : List Attribute
  visibility : List Tree
  name : String
  parameters : List (Entry Parameter)
  conditions : List Tree
  fields : Fields

namespace Structure

variable (s : Structure)

/-- The trees of a structure. Conditions stand before named fields and behind unnamed ones. -/
def trees : List Tree :=
  s.attributes.flatMap Attribute.trees ++ s.visibility ++
    [.word "struct", .word s.name] ++ parameterList Parameter.trees s.parameters ++
    match s.fields with
    | .named inner => s.conditions ++ [.group .brace inner]
    | .unnamed inner => .group .paren inner :: s.conditions ++ [.mark ';' .alone]
    | .unit => s.conditions ++ [.mark ';' .alone]

/-- The trees that name a structure in the head of an implementation: parameters, name, arguments
and conditions. -/
def implTrees : List Tree :=
  parameterList Parameter.implTrees s.parameters ++ .word s.name ::
    parameterList Parameter.name s.parameters ++ s.conditions

end Structure

def structureBody (r : Rules) : Parse (List Tree × Fields) := do
  let early ← peekWord "where"
  let before ← conditions r
  if !early && (← peekGroup .paren) then
    let inner ← inGroup .paren (unnamedFields r)
    let late ← peekWord "where"
    let behind ← conditions r
    if ← peekMark ";" then
      let _ ← mark ";"
      return (behind, .unnamed inner)
    else if late then expected [.token ";"]
    else expected [.token "where", .token ";"]
  else if ← peekGroup .brace then
    return (before, .named (← inGroup .brace (namedFields r)))
  else if ← peekMark ";" then
    let _ ← mark ";"
    return (before, .unit)
  else if early then expected [.group .brace, .token ";"]
  else expected [.token "where", .group .paren, .group .brace, .token ";"]

def structureItem (r : Rules) : Parse Structure := do
  let attrs ← attributes r
  let vis ← visibility
  let _ ← word "struct"
  let name ← identifier
  let params ← parameters r
  let (conds, fields) ← structureBody r
  return ⟨attrs, vis, name, params, conds, fields⟩

end StateMachine.Source
