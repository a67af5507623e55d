import StateMachine.Declaration.Emission

/-!
# Assemblies

A declared machine as it runs: the code of its routine, with the labels that the expressions of
its states stand for. Two spellings may stand for one label, and then there is no dispatcher.
-/

namespace StateMachine

open Source

def LabelType.ofExpr : (t : LabelType) → Expr → Except Fault t.Carrier
  | .i32, e => Symbol.ofExpr .i32 e
  | .i64, e => Symbol.ofExpr .i64 e
  | .str, e => Symbol.ofExpr .str e

/-- A declared machine with labels. -/
structure Assembly (σ : Type) (k : Kind) where
  fingerprint : String
  /-- The labels, by number. -/
  states : List σ
  code : Code k

def Assembly.dispatcher {σ : Type} {k : Kind} [DecidableEq σ] [Label σ] (a : Assembly σ k) :
    Except Error (Dispatcher σ k) :=
  Dispatcher.ofRoutine a.code.eval a.states

/-- A declaration with the labels of a type. -/
def Declaration.assemble (d : Declaration) (t : LabelType) :
    Except Fault (Assembly t.Carrier d.kind) := do
  let b ← d.blueprint
  let states ← b.values.mapM t.ofExpr
  pure ⟨b.fingerprint, states, .ofPlan b.plan⟩

end StateMachine
