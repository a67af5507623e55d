import StateMachine.Error
import StateMachine.Label

/-!
# Numberings

Compiled routines know states by number. A numbering lists the labels by number: the exit at zero,
the initial state at one, and then the others.
-/

namespace StateMachine

/-- The number of a state. -/
abbrev StateId := UInt32

def exitId : StateId := 0

def initId : StateId := 1

/-- Labels by number, each once, with at least an exit and an initial state. -/
structure Numbering (σ : Type) where
  values : List σ
  two_le_length : 2 ≤ values.length
  nodup : values.Nodup

variable {σ : Type}

/-- The first element that occurred before. -/
def firstRepeat? [DecidableEq σ] : List σ → List σ → Option σ
  | _, [] => none
  | seen, s :: rest => if s ∈ seen then some s else firstRepeat? (s :: seen) rest

theorem nodup_of_firstRepeat? [DecidableEq σ] {seen l : List σ} (h : firstRepeat? seen l = none) :
    l.Nodup ∧ ∀ s ∈ l, s ∉ seen := by
  induction l generalizing seen with
  | nil => simp
  | cons a l ih =>
    rw [firstRepeat?] at h
    split at h
    · simp at h
    · next ha =>
      obtain ⟨hl, hs⟩ := ih h
      refine ⟨List.nodup_cons.2 ⟨fun hm => ?_, hl⟩, ?_⟩
      · exact hs a hm (by simp)
      · intro s hm
        rcases List.mem_cons.1 hm with rfl | hm
        · exact ha
        · exact fun hc => hs s hm (List.mem_cons_of_mem _ hc)

namespace Numbering

def ofValues [DecidableEq σ] [Label σ] (values : List σ) : Except Error (Numbering σ) :=
  if h : values.length < 2 then .error (.compilation (.tooFewStates values.length))
  else
    match hr : firstRepeat? [] values with
    | some s => .error (.compilation (.repeatedState (Label.text s)))
    | none => .ok ⟨values, by omega, (nodup_of_firstRepeat? hr).1⟩

def size (n : Numbering σ) : Nat := n.values.length

def value? (n : Numbering σ) (i : StateId) : Option σ := n.values[i.toNat]?

def exit (n : Numbering σ) : σ :=
  n.values.head (by
    have := n.two_le_length
    intro h
    simp [h] at this)

/-- The label with a number; numbers of no label stand for the exit. -/
def resolve (n : Numbering σ) (i : StateId) : σ := (n.value? i).getD n.exit

def id? [DecidableEq σ] (n : Numbering σ) (s : σ) : Option StateId :=
  (n.values.idxOf? s).map Nat.toUInt32

end Numbering

end StateMachine
