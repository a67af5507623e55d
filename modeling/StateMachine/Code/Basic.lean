import StateMachine.Machine

/-!
# Routines as code

The code of a routine: a selection of the state's branch, and for each branch a constant, a single
test, or a selection by the switch hash followed by tests. `Code.eval` runs it, and `Code.ofPlan`
arranges the branches of a plan as code.

A selection compares either the hash itself or its distance from an origin, taken modulo the width
of a word, with constants. An arm of it either leaves the routine or makes tests and falls out.
-/

namespace StateMachine

/-- A test of a symbol. Texts are compared as texts. -/
inductive Test : Kind → Type
  | hashIs {k : Kind} (hash : Int32) : Test k
  | sameAs {k : Kind} (value : Symbol k) : Test k
  | within {k : Kind} (start stop : Symbol k) : Test k
  | textIs (value : String) : Test .str
  | textWithin (start stop : String) : Test .str
  | both {k : Kind} (first second : Test k) : Test k

/-- A test, and the target with which the routine is left if it succeeds. -/
structure Check (k : Kind) where
  test : Test k
  target : StateId

/-- What an arm of a selection does. -/
inductive Arm (k : Kind)
  | leave (target : StateId)
  /-- Makes checks in order, and falls out if none succeeds. -/
  | test (checks : List (Check k))

/-- A selection by hash; a hash without an arm falls out. -/
inductive Selection (k : Kind)
  | byHash (arms : List (Int32 × Arm k))
  | byOffset (origin : Int32) (arms : List (UInt32 × Arm k))

inductive Block (k : Kind)
  | constant (target : StateId)
  | either (test : Test k) (yes no : StateId)
  /-- A selection, then checks, then a constant. -/
  | select (selection : Selection k) (checks : List (Check k)) (fallback : StateId)

/-- The code of a routine: blocks by state number; other numbers lead to the exit. -/
structure Code (k : Kind) where
  blocks : List (StateId × Block k)

variable {k : Kind}

/-! ### Evaluation -/

def Test.eval : {k : Kind} → Test k → Symbol k → Bool
  | _, .hashIs hash, x => x.hash == hash
  | _, .sameAs value, x => x.same value
  | _, .within start stop, x => x.within start stop
  | _, .textIs value, x => decide (x = value)
  | _, .textWithin start stop, x => decide (start ≤ x) && decide (x ≤ stop)
  | _, .both first second, x => first.eval x && second.eval x

/-- The target of the first check that succeeds. -/
def Check.evalAll (checks : List (Check k)) (x : Symbol k) : Option StateId :=
  (checks.find? (·.test.eval x)).map Check.target

def Arm.eval : Arm k → Symbol k → Option StateId
  | .leave target, _ => some target
  | .test checks, x => Check.evalAll checks x

def Selection.eval : Selection k → Symbol k → Option StateId
  | .byHash arms, x => (arms.lookup x.hash).bind (·.eval x)
  | .byOffset origin arms, x => (arms.lookup (x.hash - origin).toUInt32).bind (·.eval x)

def Block.eval : Block k → Symbol k → StateId
  | .constant target, _ => target
  | .either test yes no, x => if test.eval x then yes else no
  | .select selection checks fallback, x =>
    match selection.eval x with
    | some target => target
    | none => (Check.evalAll checks x).getD fallback

def Code.eval (c : Code k) : Routine k := fun i x =>
  match c.blocks.lookup i with
  | some b => b.eval x
  | none => exitId

/-! ### Code for plans -/

def Test.exactly : {k : Kind} → Symbol k → Test k
  | .str, value => .textIs value
  | _, value => .sameAs value

def Test.between : {k : Kind} → Symbol k → Symbol k → Test k
  | .str, start, stop => .textWithin start stop
  | _, start, stop => .within start stop

/-- The arm for a bucket. If the hash decides alone, a single entry needs no test. -/
def Arm.ofBucket (b : Bucket k StateId) : Arm k :=
  match k.comparison.hashIsExact, b.entries with
  | true, [e] => .leave e.2
  | _, es => .test (es.map (fun e => ⟨.exactly e.1, e.2⟩))

/-- The selection for a switch map. Holes of a dense map have no arms. -/
def Selection.ofMap (m : SwitchMap k StateId) : Selection k :=
  match m.layout with
  | .dense min _ =>
    .byOffset min (m.cases.filterMap (fun c =>
      c.2.map (fun b => ((hashDistance min c.1).toUInt32, Arm.ofBucket b))))
  | .sparse => .byHash (m.buckets.map (fun b => (b.hash, Arm.ofBucket b)))

/-- The code for a branch. The test of a single symbol compares hashes first. -/
def Block.ofBranch : Branch k → Block k
  | .jump target => .constant target
  | .single value target fallback =>
    let byHash : Test k := .hashIs value.hash
    .either (if k.comparison.hashIsExact then byHash else .both byHash (.exactly value))
      target fallback
  | .switch map ranges fallback =>
    let checks := ranges.map (fun arm => ⟨.between arm.start arm.stop, arm.target⟩)
    .select (.ofMap map) checks fallback

/-- The code for a plan. The exit has no block. -/
def Code.ofPlan (p : Plan k) : Code k :=
  ⟨(p.branches.zipIdx.map (fun e => (e.2.toUInt32, Block.ofBranch e.1))).drop 1⟩

end StateMachine
