import StateMachine.Code.Printer
import StateMachine.Declaration.Blueprint

/-!
# The text of a declared machine

A declaration is written as its item, followed by an implementation with the numbers of the two
ends, the fingerprint, the states by number, constructors of dispatchers and machines, and the
routine. Source text that cannot be read into trees is told apart from a declaration with faults.
-/

namespace StateMachine

open Source

/-- Why there is no text for a declaration. -/
inductive Refusal
  /-- The source text cannot be read into trees. -/
  | unreadable
  | faults (faults : List Fault)

def readTrees (source : String) : Except Refusal (List Tree) :=
  match Tree.ofString? source with
  | some trees => .ok trees
  | none => .error .unreadable

namespace Declaration

/-- The declaration that a text of arguments and the text of an item are. -/
def ofSource (arguments item : String) : Except Refusal Declaration := do
  let arguments ← readTrees arguments
  let item ← readTrees item
  (ofTrees arguments item).mapError Refusal.faults

variable (d : Declaration)

def constructors (b : Blueprint d.kind) : List String :=
  let state := d.header.state.spelling
  let types := state ++ " , " ++ d.symbolType.spelling
  let values := " , ".intercalate (b.values.map Expr.spelling)
  [ "pub const INIT : :: fsmgen :: StateId = :: fsmgen :: INIT_ID ;",
    "pub const EXIT : :: fsmgen :: StateId = :: fsmgen :: EXIT_ID ;",
    "# [doc = r\" Structural fingerprint of the model this machine was generated from.\"]",
    "pub const FINGERPRINT : & 'static str = " ++ (Literal.ofString b.fingerprint).text ++ " ;",
    "# [doc = r\" State values indexed by id.\"]",
    "pub fn states () -> :: std :: vec :: Vec < " ++ state ++ " >",
    braced [":: std :: vec ! [" ++ values ++ "]"],
    "pub fn dispatcher () -> :: fsmgen :: Result < :: fsmgen :: Dispatcher < " ++ types ++ " >>",
    braced [":: fsmgen :: Dispatcher :: new (Self :: transit , Self :: states ())"],
    "pub fn machine () -> :: fsmgen :: Result < :: fsmgen :: Machine < " ++ types ++ " >>",
    braced ["Self :: dispatcher () . map (| dispatcher | dispatcher . machine ())"] ]

def routine (b : Blueprint d.kind) : List String :=
  [ "# [allow (unused_variables , clippy :: all)]",
    "pub fn transit (state : :: fsmgen :: StateId , token : & " ++ d.symbolType.spelling ++
      ") -> :: fsmgen :: StateId",
    braced [(Code.ofPlan b.plan).text] ]

def text (b : Blueprint d.kind) : String :=
  words [Tree.spell d.item.trees, "impl", Tree.spell d.item.implTrees,
    braced (d.constructors b ++ d.routine b)]

end Declaration

/-- The text that a declaration in source text stands for. -/
def expand (arguments item : String) : Except Refusal String := do
  let d ← Declaration.ofSource arguments item
  let b ← d.blueprint.mapError (fun fault => Refusal.faults [fault])
  pure (d.text b)

end StateMachine
