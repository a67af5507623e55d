import StateMachine.Error
import StateMachine.Symbol
import StateMachine.Text.Sort

/-!
# Guards

The predicate of a conditional transition: one symbol, a set of symbols, or an inclusive range.
Guards are equal when they are of one form and name the same symbols; for sets neither order nor
repetition counts.
-/

namespace StateMachine

inductive Guard (k : Kind)
  | single (value : Symbol k)
  | set (values : List (Symbol k))
  /-- Matches every symbol from `start` to `stop`. -/
  | range (start stop : Symbol k)

variable {k : Kind}

/-- Keeps the first of symbols that are the same. -/
def distinct (values : List (Symbol k)) : List (Symbol k) :=
  values.foldl (fun seen v => if seen.any (·.same v) then seen else seen ++ [v]) []

namespace Guard

/-- The guard for a list of symbols: repeats are dropped, and one remaining symbol is no set. -/
def ofValues (values : List (Symbol k)) : Guard k :=
  match distinct values with
  | [v] => .single v
  | vs => .set vs

/-- The symbols that a guard names; a range names its two ends. -/
def values : Guard k → List (Symbol k)
  | .single v => [v]
  | .set vs => vs
  | .range a b => [a, b]

def isRange : Guard k → Bool
  | .range _ _ => true
  | _ => false

def accepts : Guard k → Symbol k → Bool
  | .single v, x => v.same x
  | .set vs, x => vs.any (·.same x)
  | .range a b, x => x.within a b

/-- What is wrong with a guard: a set needs two distinct symbols, and a range needs an order and
a start strictly before its end. -/
def fault? : Guard k → Option ModelError
  | .single _ => none
  | .set vs =>
    let n := (distinct vs).length
    if n < 2 then some (.degenerateSet n) else none
  | .range a b =>
    if !k.isOrderable then some (.unorderedRange k)
    else if a.order? b = some .lt then none
    else some (.invalidRange a.text b.text)

/-- The range between two symbols, if it is well formed. -/
def mkRange (start stop : Symbol k) : Except ModelError (Guard k) :=
  match (Guard.range start stop).fault? with
  | some e => .error e
  | none => .ok (.range start stop)

/-- Whether two guards name the same symbols in the same form. -/
def equiv : Guard k → Guard k → Bool
  | .single a, .single b => a.same b
  | .set as, .set bs =>
    as.all (fun a => bs.any (a.same ·)) && bs.all (fun b => as.any (·.same b))
  | .range a b, .range c d => a.same c && b.same d
  | _, _ => false

instance : BEq (Guard k) := ⟨equiv⟩

/-- A rendering that does not depend on the order or repetition of a set's symbols. -/
def canonical : Guard k → String
  | .single v => "=" ++ v.text
  | .set vs => "\x7b" ++ ",".intercalate (Text.sort (vs.map Symbol.text)).eraseReps ++ "\x7d"
  | .range a b => "[" ++ a.text ++ "..=" ++ b.text ++ "]"

def display : Guard k → String
  | .single v => v.text
  | .set vs => "\x7b" ++ ", ".intercalate (vs.map Symbol.text) ++ "\x7d"
  | .range a b => a.text ++ "..=" ++ b.text

/-- The rendering that also shows the form of the guard. -/
def describe : Guard k → String
  | .single v => "Single(" ++ v.text ++ ")"
  | .set vs => "Set([" ++ ", ".intercalate (vs.map Symbol.text) ++ "])"
  | .range a b => "Range \x7b start: " ++ a.text ++ ", end: " ++ b.text ++ " \x7d"

end Guard

end StateMachine
