import StateMachine.Build
import StateMachine.Declaration.Basic
import StateMachine.Plan

/-!
# Blueprints

A declaration is put together like any other machine: its states are declared, its transitions
added one after another, and the result is built and arranged. Since a declaration uses only the
edits of drafts, whatever is checked for drafts is checked for declarations.
-/

namespace StateMachine

open Source

/-- A declared machine, ready to be written as code. -/
structure Blueprint (k : Kind) where
  numbering : Numbering String
  /-- The expressions of the states, by number. -/
  values : List Expr
  plan : Plan k
  fingerprint : String

/-- The guard that is written for a transition. -/
def GuardExpr.read (k : Kind) : GuardExpr → Except Fault (Guard k)
  | .single e => do
    let v ← Symbol.ofExpr k e
    pure (.single v)
  | .set es => do
    let vs ← es.mapM (Symbol.ofExpr k)
    pure (.ofValues vs)
  | .range a b => do
    let start ← Symbol.ofExpr k a
    let stop ← Symbol.ofExpr k b
    (Guard.mkRange start stop).mapError Fault.guard

namespace Declaration

variable (d : Declaration)

def skeleton : Except Error (Draft String d.kind) := do
  let draft ← Draft.empty.edit (.setInit d.header.init.spelling)
  let draft ← draft.edit (.setExit d.header.exit.spelling)
  d.innerStates.foldlM (fun draft e => draft.edit (.addState e.spelling)) draft

/-- Adds a transition to a draft; its guard is read first. -/
def addTransition (draft : Draft String d.kind) (t : Transition) :
    Except Fault (Draft String d.kind) := do
  let guard ←
    match t.guard with
    | some g => (g.read d.kind).map some
    | none => pure none
  (draft.edit (.addTransition t.source.spelling t.target.spelling guard)).mapError Fault.model

def draft : Except Fault (Draft String d.kind) := do
  let start ← d.skeleton.mapError Fault.model
  let draft ← d.transitions.foldlM d.addTransition start
  (draft.edit (.allowUnreachable d.header.allowUnreachable)).mapError Fault.model

def model : Except Fault (Model String d.kind) := do
  let draft ← d.draft
  draft.build.result.mapError Fault.model

def config : Config :=
  { Config.default with
    strategy := d.header.strategy
    maxDelta := d.header.maxDelta.getD Config.default.maxDelta }

/-- The state with a spelling that has to be one of a state. -/
def requireState (spelling : String) : Except Fault Expr :=
  match d.state? spelling with
  | some e => .ok e
  | none => .error (.unknownState spelling)

def blueprint : Except Fault (Blueprint d.kind) := do
  let model ← d.model
  let compiler : Compiler := ⟨d.config, none⟩
  let (numbering, plan) ← (compiler.plan model).result.mapError Fault.model
  let values ← numbering.values.mapM d.requireState
  pure ⟨numbering, values, plan, model.fingerprint⟩

end Declaration

end StateMachine
