import Mathlib.Algebra.BigOperators.Fin
import Mathlib.Tactic.Ring
import StateMachine.Text.Units

/-!
# The hash of a text is a polynomial

The code units of a text are the coefficients of a polynomial in thirty-one, the last one without a
factor, and the hash is the residue of its value in a signed word. So the hash of two texts in a row
is put together from their hashes and the number of units of the second one.
-/

namespace StateMachine.Text

/-! ### Code units -/

/-- Code units that spell characters in UTF-16: a character of the basic plane is a unit of its own,
and any other one is a high surrogate with ten bits of it and a low one with the other ten. -/
inductive Utf16 : List UInt16 → List Char → Prop
  | nil : Utf16 [] []
  | basic {u : UInt16} {c : Char} {us : List UInt16} {cs : List Char} (hu : u.toNat = c.toNat)
      (h : Utf16 us cs) : Utf16 (u :: us) (c :: cs)
  | pair {high low : UInt16} {c : Char} {us : List UInt16} {cs : List Char}
      (hhigh : 0xD800 ≤ high.toNat ∧ high.toNat < 0xDC00)
      (hlow : 0xDC00 ≤ low.toNat ∧ low.toNat < 0xE000)
      (hc : c.toNat = 0x10000 + (high.toNat - 0xD800) * 0x400 + (low.toNat - 0xDC00))
      (h : Utf16 us cs) : Utf16 (high :: low :: us) (c :: cs)

lemma utf16_flatMap (cs : List Char) : Utf16 (cs.flatMap charUnits) cs := by
  induction cs with
  | nil => exact .nil
  | cons c cs ih =>
    have hc : c.toNat < 0x110000 := by
      rcases c.valid with h | h
      · exact h.trans (by decide)
      · exact h.2
    simp only [List.flatMap_cons, charUnits]
    split_ifs with hbasic
    · apply Utf16.basic _ ih
      exact UInt16.toNat_ofNat_of_lt' hbasic
    · have hhigh : (UInt16.ofNat (0xD800 + (c.toNat - 0x10000) / 0x400)).toNat
          = 0xD800 + (c.toNat - 0x10000) / 0x400 :=
        UInt16.toNat_ofNat_of_lt' (show _ < 2 ^ 16 by omega)
      have hlow : (UInt16.ofNat (0xDC00 + (c.toNat - 0x10000) % 0x400)).toNat
          = 0xDC00 + (c.toNat - 0x10000) % 0x400 :=
        UInt16.toNat_ofNat_of_lt' (show _ < 2 ^ 16 by omega)
      apply Utf16.pair _ _ _ ih
      · omega
      · omega
      · omega

/-- Characters are spelled in one way only. -/
lemma Utf16.eq_flatMap {us : List UInt16} {cs : List Char} (h : Utf16 us cs) :
    us = cs.flatMap charUnits := by
  induction h with
  | nil => rfl
  | @basic u c us cs hu h ih =>
    have hbasic : c.toNat < 0x10000 := hu ▸ u.toNat_lt
    rw [List.flatMap_cons, charUnits, if_pos hbasic, ← hu, UInt16.ofNat_toNat, ← ih]
    rfl
  | @pair high low c us cs hhigh hlow hc h ih =>
    have hplane : ¬ c.toNat < 0x10000 := by omega
    have hhigh' : 0xD800 + (c.toNat - 0x10000) / 0x400 = high.toNat := by omega
    have hlow' : 0xDC00 + (c.toNat - 0x10000) % 0x400 = low.toNat := by omega
    simp only [List.flatMap_cons, charUnits, if_neg hplane, hhigh', hlow', UInt16.ofNat_toNat, ← ih]
    rfl

lemma utf16_iff {us : List UInt16} {s : String} : Utf16 us s.toList ↔ us = units s := by
  constructor
  · exact Utf16.eq_flatMap
  · rintro rfl
    exact utf16_flatMap s.toList

/-! ### The polynomial -/

/-- The value at thirty-one of the polynomial with the units as coefficients. -/
def polynomial (us : List UInt16) : Int :=
  ∑ i : Fin us.length, (us[i].toNat : Int) * 31 ^ (us.length - 1 - i)

@[simp] lemma polynomial_nil : polynomial [] = 0 := rfl

lemma polynomial_cons (u : UInt16) (us : List UInt16) :
    polynomial (u :: us) = u.toNat * 31 ^ us.length + polynomial us := by
  simp only [polynomial, List.length_cons]
  rw [Fin.sum_univ_succ]
  congr 1
  apply Finset.sum_congr rfl
  intro i _
  simp [Nat.sub_sub, Nat.add_comm]

lemma hashStep_ofInt (h : Int) (u : UInt16) :
    hashStep (Int32.ofInt h) u = Int32.ofInt (h * 31 + u.toNat) := by
  have hunit : u.toUInt32.toInt32 = Int32.ofInt u.toNat := by
    rw [← Int32.toBitVec_inj, ← BitVec.toNat_inj]
    simp
  rw [hashStep, hunit, Int32.ofInt_add, Int32.ofInt_mul]
  rfl

/-- Hashing goes on with the hash so far as one more coefficient in front. -/
lemma foldl_hashStep (h : Int) (us : List UInt16) :
    us.foldl hashStep (Int32.ofInt h) = Int32.ofInt (h * 31 ^ us.length + polynomial us) := by
  induction us generalizing h with
  | nil => simp
  | cons u us ih =>
    rw [List.foldl_cons, hashStep_ofInt, ih, polynomial_cons, List.length_cons]
    congr 1
    ring

lemma unitHash_eq (s : String) : unitHash s = Int32.ofInt (polynomial (units s)) := by
  have h := foldl_hashStep 0 (units s)
  rw [Int.zero_mul, Int.zero_add] at h
  exact h

lemma unitHash_append (a b : String) :
    unitHash (a ++ b)
      = Int32.ofInt ((unitHash a).toInt * 31 ^ (units b).length + (unitHash b).toInt) := by
  have hunits : units (a ++ b) = units a ++ units b := by
    simp [units]
  have hfold := foldl_hashStep (unitHash a).toInt (units b)
  rw [Int32.ofInt_toInt] at hfold
  calc unitHash (a ++ b)
      = (units b).foldl hashStep (unitHash a) := by rw [unitHash, hunits, List.foldl_append]; rfl
    _ = Int32.ofInt ((unitHash a).toInt * 31 ^ (units b).length) + unitHash b := by
        rw [hfold, Int32.ofInt_add, ← unitHash_eq]
    _ = _ := by rw [Int32.ofInt_add, Int32.ofInt_toInt]

/-- The hash of a text is the value of its polynomial, wrapped once, and the hash of two texts is
that of the first one, moved by as many places as the second one has units, plus that of the
second one. -/
theorem unitHash_is_polynomial {a b : String} {us vs : List UInt16} (ha : Utf16 us a.toList)
    (hb : Utf16 vs b.toList) :
    (unitHash a).toInt
        = (∑ i : Fin us.length, (us[i].toNat : Int) * 31 ^ (us.length - 1 - i)).bmod (2 ^ 32) ∧
      (unitHash (a ++ b)).toInt
        = ((unitHash a).toInt * 31 ^ vs.length + (unitHash b).toInt).bmod (2 ^ 32) := by
  rw [utf16_iff] at ha hb
  subst ha hb
  constructor
  · rw [unitHash_eq, Int32.toInt_ofInt]
    rfl
  · rw [unitHash_append, Int32.toInt_ofInt]
    rfl

/-- A character above the basic plane counts as two units, in front and behind. -/
theorem unitHash_is_polynomial_surrogates :
    Utf16 [0x61, 0xD83D, 0xDE00] "a😀".toList ∧ Utf16 [0xD83D, 0xDE00] "😀".toList ∧
      (unitHash "a😀").toInt = (97 * 31 ^ 2 + 0xD83D * 31 + 0xDE00 : Int).bmod (2 ^ 32) ∧
      (unitHash ("a😀" ++ "😀")).toInt
        = ((unitHash "a😀").toInt * 31 ^ 2 + (unitHash "😀").toInt).bmod (2 ^ 32) := by
  have hpair : Utf16 [0xD83D, 0xDE00] "😀".toList :=
    .pair (by decide) (by decide) (by decide) .nil
  have hall : Utf16 [0x61, 0xD83D, 0xDE00] "a😀".toList := .basic (by decide) hpair
  obtain ⟨hsum, happend⟩ := unitHash_is_polynomial hall hpair
  exact ⟨hall, hpair, hsum, happend⟩

end StateMachine.Text
