import StateMachine.Plan

/-!
# Dispatchers and machines

A dispatcher is a routine on state numbers together with the numbering it works with. A machine is
a dispatcher with a current state. Running and stamping start from the initial state and leave the
current one alone; both stop at the exit.

A routine may be any function. A number that belongs to no state counts as the exit, and is
reported.
-/

namespace StateMachine

/-- A function from a state number and a symbol to the next state number. -/
abbrev Routine (k : Kind) := StateId → Symbol k → StateId

/-- A routine with its numbering. -/
structure Dispatcher (σ : Type) (k : Kind) where
  routine : Routine k
  numbering : Numbering σ
  /-- The fingerprint of the model it was compiled from, if it was. -/
  fingerprint : Option String

structure Machine (σ : Type) (k : Kind) where
  dispatcher : Dispatcher σ k
  current : StateId

variable {σ : Type} {k : Kind}

def bracketed (texts : List String) : String := "[" ++ ", ".intercalate texts ++ "]"

namespace Dispatcher

/-- A dispatcher over any routine, for the labels by number. -/
def ofRoutine [DecidableEq σ] [Label σ] (routine : Routine k) (values : List σ) :
    Except Error (Dispatcher σ k) := do
  let n ← Numbering.ofValues values
  pure ⟨routine, n, none⟩

variable (d : Dispatcher σ k)

/-- Whether a number belongs to a state. -/
def knows (i : StateId) : Bool := i.toNat < d.numbering.size

def transit (i : StateId) (x : Symbol k) : StateId :=
  let next := d.routine i x
  if d.knows next then next else exitId

/-- What is reported about one step. -/
def transitLog (i : StateId) (x : Symbol k) : List Event :=
  let next := d.routine i x
  if d.knows next then [] else [.unknownId i next]

/-- The state number after running from a state until the exit or the end of the symbols. -/
def runFrom (i : StateId) : List (Symbol k) → StateId
  | [] => i
  | x :: xs =>
    let next := d.transit i x
    if next = exitId then exitId else runFrom next xs

def runLog (i : StateId) : List (Symbol k) → List Event
  | [] => []
  | x :: xs =>
    let next := d.transit i x
    d.transitLog i x ++ if next = exitId then [] else runLog next xs

/-- The stamp of running from a state, given the stamp so far: thirty-one times the stamp plus the
number of each state that is entered, wrapping in sixty-four bits, or minus one at the exit. -/
def stampFrom (i : StateId) (h : Int64) : List (Symbol k) → Int64
  | [] => h
  | x :: xs =>
    let next := d.transit i x
    if next = exitId then -1 else stampFrom next (h * 31 + next.toUInt64.toInt64) xs

/-- The state number after stepping from a state through all symbols. -/
def stepAll (i : StateId) (xs : List (Symbol k)) : StateId := xs.foldl d.transit i

/-- The label at which a run of a machine ends. -/
def run (xs : List (Symbol k)) : σ := d.numbering.resolve (d.runFrom initId xs)

def stamp (xs : List (Symbol k)) : Int64 := d.stampFrom initId 1 xs

def machine : Machine σ k := ⟨d, initId⟩

def describe [Label σ] : String :=
  let fingerprint :=
    match d.fingerprint with
    | some f => "Some(Fingerprint(" ++ Text.quoteString f ++ "))"
    | none => "None"
  "Dispatcher \x7b states: " ++ bracketed (d.numbering.values.map Label.text) ++
    ", fingerprint: " ++ fingerprint ++ ", .. \x7d"

end Dispatcher

namespace Machine

variable (m : Machine σ k)

def step (x : Symbol k) : Machine σ k := { m with current := m.dispatcher.transit m.current x }

def reset : Machine σ k := { m with current := initId }

def state : σ := m.dispatcher.numbering.resolve m.current

def isTerminated : Bool := m.current = exitId

/-- The label at which a run over the symbols ends; the current state plays no part. -/
def run (xs : List (Symbol k)) : σ := m.dispatcher.run xs

/-- The stamp of a run over the symbols; the current state plays no part. -/
def stamp (xs : List (Symbol k)) : Int64 := m.dispatcher.stamp xs

def describe [Label σ] : String :=
  "Machine \x7b state: " ++ Label.text m.state ++ ", dispatcher: " ++ m.dispatcher.describe ++
    " \x7d"

end Machine

end StateMachine
