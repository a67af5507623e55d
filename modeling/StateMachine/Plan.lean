import StateMachine.Model
import StateMachine.Numbering
import StateMachine.Switch

/-!
# Plans

A plan is a model with its labels replaced by numbers and every state's transitions arranged for
one look-up: a jump, a single test, or a switch over explicit symbols and the ends of ranges,
followed by the ranges and the fallback.
-/

namespace StateMachine

structure RangeArm (k : Kind) where
  start : Symbol k
  stop : Symbol k
  target : StateId

/-- The transitions of one state, arranged for look-up. -/
inductive Branch (k : Kind)
  /-- No conditional transitions. -/
  | jump (target : StateId)
  | single (value : Symbol k) (target fallback : StateId)
  /-- A switch, then the ranges in order, then the fallback. -/
  | switch (map : SwitchMap k StateId) (ranges : List (RangeArm k)) (fallback : StateId)

structure Plan (k : Kind) where
  branches : List (Branch k)

structure Config where
  /-- The largest span of hashes that is laid out densely by `Strategy.auto`. -/
  maxDelta : UInt32
  strategy : Strategy
  kinds : List Kind
  deriving DecidableEq

variable {σ : Type} {k : Kind}

/-- Spans up to ten, a layout of its own choice, and every kind. -/
def Config.default : Config := ⟨10, .auto, Kind.all⟩

def Config.supports (c : Config) (kind : Kind) : Bool := kind ∈ c.kinds

def Branch.transit : Branch k → Symbol k → StateId
  | .jump target, _ => target
  | .single value target fallback, x => if value.same x then target else fallback
  | .switch map ranges fallback, x =>
    match map.find? x with
    | some target => target
    | none =>
      match ranges.find? (fun arm => x.within arm.start arm.stop) with
      | some arm => arm.target
      | none => fallback

namespace Plan

def branch? (p : Plan k) (i : StateId) : Option (Branch k) := p.branches[i.toNat]?

/-- Where a symbol leads from a state; numbers of no state lead to the exit. -/
def transit (p : Plan k) (i : StateId) (x : Symbol k) : StateId :=
  match p.branch? i with
  | some b => b.transit x
  | none => exitId

end Plan

variable [DecidableEq σ] [Label σ]

/-- The number of a label that has to have one. -/
def Numbering.require (n : Numbering σ) (s : σ) : Logged Error StateId :=
  match n.id? s with
  | some i => pure i
  | none =>
    let defect := Defect.unnumberedState (Label.text s)
    ⟨[.unnumbered defect.message], .error (.compilation defect)⟩

def explicitEntries (edges : List (StateId × Guard k)) : List (Symbol k × StateId) :=
  edges.flatMap (fun e => if e.2.isRange then [] else e.2.values.map (·, e.1))

/-- The entries of a switch for the ends of ranges. -/
def boundaryEntries (edges : List (StateId × Guard k)) : List (Symbol k × StateId) :=
  edges.flatMap (fun e => if e.2.isRange then e.2.values.map (·, e.1) else [])

def rangeArms (edges : List (StateId × Guard k)) : List (RangeArm k) :=
  edges.filterMap (fun e =>
    match e.2 with
    | .range a b => some ⟨a, b, e.1⟩
    | _ => none)

/-- Arranges numbered edges. Explicit symbols come after the ends of ranges, so that they win. -/
def Branch.ofEdges (config : Config) (edges : List (StateId × Guard k)) (fallback : StateId) :
    Logged Error (Branch k) :=
  match edges with
  | [] => pure (.jump fallback)
  | [(target, .single value)] => pure (.single value target fallback)
  | _ => do
    let map ← (SwitchMap.ofEntries (boundaryEntries edges ++ explicitEntries edges)
      config.maxDelta config.strategy).mapError Error.switch
    pure (.switch map (rangeArms edges) fallback)

/-- Arranges the transitions of a state. It fails for targets that have no number; there is no
failure for a conditional transition without a guard, since an `Edge` always has one. -/
def Branch.ofState (config : Config) (n : Numbering σ) (s : State σ k) :
    Logged Error (Branch k) := do
  let fallback ←
    match s.fallback with
    | some t => n.require t
    | none => pure exitId
  let edges ← s.conditional.mapM (fun e => do
    let i ← n.require e.target
    pure (i, e.guard))
  Branch.ofEdges config edges fallback

/-- The labels of a model by number: the exit, the initial state and the others. -/
def Model.labels (m : Model σ k) : List σ := m.exit :: m.sources.map State.value

/-- What turns models into dispatchers: a configuration, and a backend that may accept only some
kinds of symbols. -/
structure Compiler where
  config : Config
  /-- The kinds that the backend accepts, if it does not accept all of them. -/
  backendKinds : Option (List Kind)

namespace Compiler

/-- Whether both the configuration and the backend accept a kind. -/
def supports (c : Compiler) (kind : Kind) : Bool :=
  c.config.supports kind && (c.backendKinds.all (kind ∈ ·))

def checkKind (c : Compiler) (kind : Kind) : Except Error Unit :=
  if c.supports kind then .ok () else .error (.unsupportedKind kind)

/-- Numbers the states of a model and arranges their transitions. -/
def plan (c : Compiler) (m : Model σ k) : Logged Error (Numbering σ × Plan k) := do
  Logged.ofExcept (c.checkKind k)
  let n ← Logged.ofExcept (Numbering.ofValues m.labels)
  let branches ← m.sources.mapM (Branch.ofState c.config n)
  pure (n, ⟨.jump exitId :: branches⟩)

end Compiler

end StateMachine
