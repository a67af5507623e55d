import StateMachine.Assoc
import StateMachine.Event
import StateMachine.Model

/-!
# Drafts

A draft collects edits until they can be built into a model: the two ends, the declared states, and
a table with the outgoing edges of every source. An edit answers whether it was possible, and
leaves a draft behind in either case. Edits keep the parts of the states apart and drop the edges
from and to a state that goes away. `Draft.build` checks what single edits cannot: that guards are
well formed and do not compete, and that every state can be reached.
-/

namespace StateMachine

/-- The outgoing edges of one source, in the order of their insertion. -/
structure Edges (σ : Type) (k : Kind) where
  conditional : List (Edge σ k)
  unconditional : List σ

structure Draft (σ : Type) (k : Kind) where
  init : Option σ
  exit : Option σ
  states : List σ
  edges : Assoc σ (Edges σ k)
  /-- Whether states that cannot be reached are accepted. -/
  allowUnreachable : Bool

inductive TransitionKind
  | conditional
  | unconditional
  deriving DecidableEq

inductive Edit (σ : Type) (k : Kind)
  | setInit (s : σ)
  | setExit (s : σ)
  | addState (s : σ)
  | removeState (s : σ)
  /-- A transition, conditional if it has a guard. -/
  | addTransition (source target : σ) (guard : Option (Guard k))
  /-- Removes transitions of both kinds. -/
  | removeTransition (source target : σ)
  | removeTransitionKind (source target : σ) (kind : TransitionKind)
  | allowUnreachable (allow : Bool)

variable {σ : Type} {k : Kind}

namespace Edges

def empty : Edges σ k := ⟨[], []⟩

/-- The targets of all edges, conditional ones first. -/
def targets (e : Edges σ k) : List σ := e.conditional.map Edge.target ++ e.unconditional

variable [DecidableEq σ]

def dropConditional (e : Edges σ k) (t : σ) : Edges σ k :=
  { e with conditional := e.conditional.filter (fun c => c.target ≠ t) }

def dropUnconditional (e : Edges σ k) (t : σ) : Edges σ k :=
  { e with unconditional := e.unconditional.filter (fun u => u ≠ t) }

def dropTarget (e : Edges σ k) (t : σ) : Edges σ k := (e.dropConditional t).dropUnconditional t

/-- Puts a guard on the first edge to a target, or on a new edge at the end if there is none. -/
def putGuard (t : σ) (g : Guard k) : List (Edge σ k) → List (Edge σ k)
  | [] => [⟨t, g⟩]
  | c :: cs => if c.target = t then ⟨t, g⟩ :: cs else c :: putGuard t g cs

/-- Adds a conditional edge; if there is one to the same target, its guard is replaced. -/
def addConditional (e : Edges σ k) (t : σ) (g : Guard k) : Edges σ k :=
  { e with conditional := putGuard t g e.conditional }

/-- Adds an unconditional edge, unless there is one to the same target. -/
def addUnconditional (e : Edges σ k) (t : σ) : Edges σ k :=
  if t ∈ e.unconditional then e else { e with unconditional := e.unconditional ++ [t] }

def add (e : Edges σ k) (t : σ) : Option (Guard k) → Edges σ k
  | some g => e.addConditional t g
  | none => e.addUnconditional t

end Edges

namespace Draft

def empty : Draft σ k := ⟨none, none, [], .empty, false⟩

/-- The answer to an edit that was possible, with the draft that it leaves behind. -/
def accept (d : Draft σ k) : Except Error Unit × Draft σ k := (.ok (), d)

/-- The answer to an edit that a state stands in the way of, with the draft as it is by then. -/
def refuse [Label σ] (d : Draft σ k) (s : σ) (c : RoleConflict) : Except Error Unit × Draft σ k :=
  (.error (.invalidState (Label.text s) c), d)

@[simp] theorem accept_snd (d : Draft σ k) : d.accept.2 = d := rfl

@[simp] theorem refuse_snd [Label σ] (d : Draft σ k) (s : σ) (c : RoleConflict) :
    (d.refuse s c).2 = d := rfl

variable [DecidableEq σ]

def dropSource (d : Draft σ k) (s : σ) : Draft σ k := { d with edges := d.edges.erase s }

def dropTarget (d : Draft σ k) (t : σ) : Draft σ k :=
  { d with edges := d.edges.map (·.dropTarget t) }

/-- Makes a state a source, without edges if it is new. -/
def ensureSource (d : Draft σ k) (s : σ) : Draft σ k :=
  { d with edges := d.edges.ensure s .empty }

/-- Changes the edges of one source; an unknown source changes nothing. -/
def updateSource (d : Draft σ k) (s : σ) (f : Edges σ k → Edges σ k) : Draft σ k :=
  { d with edges := d.edges.update s f }

/-- Takes the part of the initial state away, with the edges of the state that had it. -/
def withdrawInit (d : Draft σ k) : Draft σ k :=
  match d.init with
  | some previous => { d.dropSource previous with init := none }
  | none => d

/-- Takes the part of the exit away, with the edges to the state that had it. -/
def withdrawExit (d : Draft σ k) : Draft σ k :=
  match d.exit with
  | some previous => { d.dropTarget previous with exit := none }
  | none => d

@[simp] theorem withdrawInit_init (d : Draft σ k) : d.withdrawInit.init = none := by
  rw [withdrawInit]
  split
  · rfl
  · assumption

@[simp] theorem withdrawInit_exit (d : Draft σ k) : d.withdrawInit.exit = d.exit := by
  rw [withdrawInit]
  split <;> rfl

@[simp] theorem withdrawInit_states (d : Draft σ k) : d.withdrawInit.states = d.states := by
  rw [withdrawInit]
  split <;> rfl

@[simp] theorem withdrawExit_init (d : Draft σ k) : d.withdrawExit.init = d.init := by
  rw [withdrawExit]
  split <;> rfl

@[simp] theorem withdrawExit_exit (d : Draft σ k) : d.withdrawExit.exit = none := by
  rw [withdrawExit]
  split
  · rfl
  · assumption

@[simp] theorem withdrawExit_states (d : Draft σ k) : d.withdrawExit.states = d.states := by
  rw [withdrawExit]
  split <;> rfl

/-- Removes a declared state with all edges from it and to it; other states are left alone. -/
def removeState (d : Draft σ k) (s : σ) : Draft σ k :=
  if s ∈ d.states then
    ({ d with states := d.states.erase s }.dropSource s).dropTarget s
  else d

variable [Label σ]

/-- Sets the initial state. A previous one goes away with its edges. -/
def setInit (d : Draft σ k) (s : σ) : Except Error Unit × Draft σ k :=
  if d.init = some s then d.accept
  else if d.exit = some s then d.refuse s .alreadyExit
  else if s ∈ d.states then d.refuse s .alreadyDeclared
  else ({ d.withdrawInit with init := some s }.ensureSource s).accept

/-- Sets the exit. The edges to a previous one go away. -/
def setExit (d : Draft σ k) (s : σ) : Except Error Unit × Draft σ k :=
  if d.exit = some s then d.accept
  else if d.init = some s then d.refuse s .alreadyInit
  else if s ∈ d.states then d.refuse s .alreadyDeclared
  else { d.withdrawExit with exit := some s }.accept

/-- Declares a state; declaring it again changes nothing. -/
def addState (d : Draft σ k) (s : σ) : Except Error Unit × Draft σ k :=
  if d.init = some s then d.refuse s .isInit
  else if d.exit = some s then d.refuse s .isExit
  else if s ∈ d.states then d.accept
  else ({ d with states := d.states ++ [s] }.ensureSource s).accept

def addTransition (d : Draft σ k) (source target : σ) (guard : Option (Guard k)) :
    Except Error Unit × Draft σ k :=
  if (d.edges.find? source).isNone then d.refuse source .notASource
  else if d.exit = some target ∨ target ∈ d.states then
    (d.updateSource source (·.add target guard)).accept
  else d.refuse target .notATarget

/-- Tries an edit, and says whether it was possible. -/
def attempt (d : Draft σ k) : Edit σ k → Except Error Unit × Draft σ k
  | .setInit s => d.setInit s
  | .setExit s => d.setExit s
  | .addState s => d.addState s
  | .removeState s => (d.removeState s).accept
  | .addTransition s t g => d.addTransition s t g
  | .removeTransition s t => (d.updateSource s (·.dropTarget t)).accept
  | .removeTransitionKind s t .conditional => (d.updateSource s (·.dropConditional t)).accept
  | .removeTransitionKind s t .unconditional => (d.updateSource s (·.dropUnconditional t)).accept
  | .allowUnreachable b => { d with allowUnreachable := b }.accept

/-- The draft after an edit that has to be possible. -/
def edit (d : Draft σ k) (e : Edit σ k) : Except Error (Draft σ k) :=
  match d.attempt e with
  | (.ok (), d') => .ok d'
  | (.error refused, _) => .error refused

/-- The draft that an edit leaves behind, whether it was possible or not. -/
def apply (d : Draft σ k) (e : Edit σ k) : Draft σ k := (d.attempt e).2

end Draft

end StateMachine
