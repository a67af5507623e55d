import StateMachine.Guard
import StateMachine.Label

/-!
# Models

An immutable machine: an initial state, an exit, and the other states, each with its outgoing
transitions. `Model.next` says where a symbol leads: an explicit guard wins over a range, a range
over the fallback, and whatever is left leads to the exit. The fingerprint renders the structure of
a model so that the order in which it was put together does not show.
-/

namespace StateMachine

/-- A conditional transition. It cannot lack its guard, so nothing that is made from transitions has
to refuse one without a guard. -/
structure Edge (σ : Type) (k : Kind) where
  target : σ
  guard : Guard k

structure State (σ : Type) (k : Kind) where
  value : σ
  conditional : List (Edge σ k)
  /-- The target of the unconditional transition, if there is one. -/
  fallback : Option σ

structure Model (σ : Type) (k : Kind) where
  init : State σ k
  exit : σ
  /-- The other states, in the order of their declaration. -/
  states : List (State σ k)

variable {σ : Type} {k : Kind}

namespace State

/-- Where a symbol leads from this state. -/
def next (s : State σ k) (exit : σ) (x : Symbol k) : σ :=
  match s.conditional.find? (fun e => !e.guard.isRange && e.guard.accepts x) with
  | some e => e.target
  | none =>
    match s.conditional.find? (fun e => e.guard.isRange && e.guard.accepts x) with
    | some e => e.target
    | none => s.fallback.getD exit

def fragment [Label σ] (s : State σ k) : String :=
  let edges := s.conditional.map (fun e => Label.text e.target ++ e.guard.canonical)
  let fallback :=
    match s.fallback with
    | some t => ";" ++ Label.text t
    | none => ""
  Label.text s.value ++ "(" ++ ",".intercalate (Text.sort edges) ++ fallback ++ ")"

end State

namespace Model

/-- All states that have transitions: the initial one and then the declared ones. -/
def sources (m : Model σ k) : List (State σ k) := m.init :: m.states

def stateCount (m : Model σ k) : Nat := m.states.length + 2

/-- The state with a label; the exit is not one of them. -/
def state? [DecidableEq σ] (m : Model σ k) (s : σ) : Option (State σ k) :=
  m.sources.find? (fun t => t.value = s)

/-- Where a symbol leads from a state. The exit, and labels of no state, lead to the exit. -/
def next [DecidableEq σ] (m : Model σ k) (s : σ) (x : Symbol k) : σ :=
  match m.state? s with
  | some t => t.next m.exit x
  | none => m.exit

/-- The structure of a model as text. -/
def fingerprint [Label σ] (m : Model σ k) : String :=
  k.name ++ ":" ++ Label.text m.exit ++ "|" ++ m.init.fragment ++ "|" ++
    "|".intercalate (Text.sort (m.states.map State.fragment))

end Model

end StateMachine
