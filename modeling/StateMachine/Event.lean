import StateMachine.Kind

/-!
# Events

What is logged while models are built and compiled and machines run. An event is a cause with its
data; level, message and fields are read off it. `Logged` is a result that comes with the events
logged on the way to it.
-/

namespace StateMachine

inductive Event
  /-- A state cannot be reached, and that is allowed. -/
  | unreachable (state : String)
  | built (states : Nat) (fingerprint : String)
  /-- A dense table was asked for, and the hashes are too far apart. -/
  | wideSpan (keys span limit : Nat)
  | selected (keys span gap maxDelta : Nat) (dense : Bool)
  | loading (routine : String) (branches : Nat)
  | compiled (routine : String) (states : Nat) (kind : Kind)
  | published (fingerprint : String)
  /-- A routine answered with a number that belongs to no state. -/
  | unknownId (state next : UInt32)
  /-- A state of a model has no number. -/
  | unnumbered (message : String)
  deriving DecidableEq

namespace Event

/-- How severe an event is. -/
def level : Event → String
  | .unknownId .. | .unnumbered .. => "ERROR"
  | .unreachable .. | .wideSpan .. => "WARN"
  | .selected .. => "TRACE"
  | _ => "DEBUG"

def message : Event → String
  | .unreachable .. => "state is unreachable from the initial state"
  | .built .. => "built model"
  | .wideSpan .. => "hash span too wide for a dense table, using sparse"
  | .selected .. => "selected switch strategy"
  | .loading .. => "loading table routine"
  | .compiled .. => "compiled dispatcher"
  | .published .. => "published dispatcher"
  | .unknownId .. => "routine returned an unknown state id"
  | .unnumbered .. => "internal compiler invariant violated"

def fields : Event → List (String × String)
  | .unreachable state => [("state", state)]
  | .built states fingerprint => [("states", toString states), ("fingerprint", fingerprint)]
  | .wideSpan keys span limit =>
    [("keys", toString keys), ("span", toString span), ("limit", toString limit)]
  | .selected keys span gap maxDelta dense =>
    [("keys", toString keys), ("span", toString span), ("gap", toString gap),
      ("max_delta", toString maxDelta), ("dense", if dense then "true" else "false")]
  | .loading routine branches => [("routine", routine), ("branches", toString branches)]
  | .compiled routine states kind =>
    [("routine", routine), ("states", toString states), ("kind", kind.name)]
  | .published fingerprint => [("fingerprint", fingerprint)]
  | .unknownId state next =>
    [("state", toString state.toNat), ("next", toString next.toNat)]
  | .unnumbered message => [("message", message)]

end Event

/-- A result, or the reason why there is none, with the events logged on the way. -/
structure Logged (ε α : Type) where
  /-- The events, first one first. -/
  log : List Event
  result : Except ε α

namespace Logged

variable {ε α β : Type}

def ofExcept (r : Except ε α) : Logged ε α := ⟨[], r⟩

def emit (e : Event) : Logged ε Unit := ⟨[e], .ok ()⟩

def fail (e : ε) : Logged ε α := ⟨[], .error e⟩

instance : Monad (Logged ε) where
  pure a := ⟨[], .ok a⟩
  bind x f :=
    match x.result with
    | .ok a => ⟨x.log ++ (f a).log, (f a).result⟩
    | .error e => ⟨x.log, .error e⟩

/-- Changes the reason of a failure. -/
def mapError {ε' : Type} (f : ε → ε') (x : Logged ε α) : Logged ε' α :=
  ⟨x.log, x.result.mapError f⟩

@[simp] theorem result_pure (a : α) : (pure a : Logged ε α).result = .ok a := rfl

@[simp] theorem result_bind (x : Logged ε α) (f : α → Logged ε β) :
    (x >>= f).result = x.result >>= fun a => (f a).result := by
  cases x with
  | mk log result => cases result <;> rfl

@[simp] theorem result_ofExcept (r : Except ε α) : (ofExcept r).result = r := rfl

@[simp] theorem result_mapError {ε' : Type} (f : ε → ε') (x : Logged ε α) :
    (x.mapError f).result = x.result.mapError f := rfl

end Logged

end StateMachine
