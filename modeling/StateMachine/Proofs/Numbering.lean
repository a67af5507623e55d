import Mathlib.Data.List.Nodup
import Mathlib.Tactic.Common
import StateMachine.Numbering

/-!
# Numbers and labels

As long as the numbers fit into a word, the numbers below the size of a numbering and its labels
determine each other. Any two or more labels can be numbered, unless one is repeated.
-/

namespace StateMachine.Numbering

variable {σ : Type}

@[ext] lemma ext {n n' : Numbering σ} (h : n.values = n'.values) : n = n' := by
  cases n
  cases n'
  congr

@[simp] lemma value?_exitId (n : Numbering σ) : n.value? exitId = some n.exit := by
  rw [value?, exit, show exitId.toNat = 0 from rfl, ← List.head?_eq_getElem?,
    List.head?_eq_some_head]

lemma head?_values (n : Numbering σ) : n.values.head? = some n.exit :=
  List.head?_eq_some_head _

lemma resolve_eq {n : Numbering σ} {i : StateId} {s : σ} (h : n.value? i = some s) :
    n.resolve i = s := by
  rw [resolve, h]
  rfl

/-- Only the number of the exit has the label of the exit. -/
lemma resolve_eq_exit_iff {n : Numbering σ} {i : StateId} (hi : i.toNat < n.size) :
    n.resolve i = n.exit ↔ i = exitId := by
  rw [size] at hi
  rw [resolve_eq (List.getElem?_eq_getElem hi), exit, List.head_eq_getElem_zero,
    List.Nodup.getElem_inj_iff n.nodup]
  exact UInt32.toNat_inj (b := exitId)

lemma resolve_of_size_le {n : Numbering σ} {i : StateId} (hi : n.size ≤ i.toNat) :
    n.resolve i = n.exit := by
  rw [resolve, value?, List.getElem?_eq_none hi]
  rfl

variable [DecidableEq σ]

lemma ofValues_eq_ok [Label σ] {values : List σ} {n : Numbering σ} (h : ofValues values = .ok n) :
    n.values = values := by
  rw [ofValues] at h
  split_ifs at h
  split at h
  · cases h
  · cases h
    rfl

lemma id?_eq_none_iff {n : Numbering σ} {s : σ} : n.id? s = none ↔ s ∉ n.values := by
  rw [id?, Option.map_eq_none_iff, List.idxOf?_eq_none_iff]

omit [DecidableEq σ] in
lemma toNat_toUInt32 {i : Nat} (hi : i < UInt32.size) : i.toUInt32.toNat = i := by
  rw [Nat.toUInt32, UInt32.toNat_ofNat_of_lt' hi]

/-- In a list without repetitions an element is at one place. -/
lemma idxOf?_eq_some_iff_of_nodup {l : List σ} (hl : l.Nodup) {s : σ} {i : Nat} :
    l.idxOf? s = some i ↔ l[i]? = some s := by
  rw [List.idxOf?_eq_some_iff, List.getElem?_eq_some_iff]
  refine exists_congr fun hi => and_iff_left_of_imp ?_
  rintro rfl j hj heq
  exact absurd ((List.Nodup.getElem_inj_iff hl).mp heq) (by omega)

/-- A label has a number exactly if the number has the label. -/
lemma id?_eq_some_iff {n : Numbering σ} (hsize : n.size ≤ UInt32.size) {s : σ} {i : StateId} :
    n.id? s = some i ↔ n.value? i = some s := by
  simp only [id?, value?, Option.map_eq_some_iff, idxOf?_eq_some_iff_of_nodup n.nodup]
  constructor
  · rintro ⟨j, hj, rfl⟩
    have hlt : j < n.size := (List.getElem?_eq_some_iff.mp hj).1
    rw [toNat_toUInt32 (by omega)]
    exact hj
  · intro h
    exact ⟨i.toNat, h, UInt32.toNat_inj.mp (toNat_toUInt32 i.toNat_lt)⟩

/-- Every label has a number. -/
lemma exists_id? {n : Numbering σ} {s : σ} (hs : s ∈ n.values) : ∃ i, n.id? s = some i := by
  rw [← Option.ne_none_iff_exists', Ne, id?_eq_none_iff, not_not]
  exact hs

/-- What has a number is found again under it. -/
lemma resolve_of_id? {n : Numbering σ} (hsize : n.size ≤ UInt32.size) {s : σ} {i : StateId}
    (h : n.id? s = some i) : n.resolve i = s :=
  resolve_eq ((id?_eq_some_iff hsize).mp h)

/-- Numbers below the size and labels go with each other; no other label has a number, and other
numbers stand for the first label. -/
structure Bijective (n : Numbering σ) (values : List σ) : Prop where
  id?_value? : ∀ i : StateId, i.toNat < values.length →
    ∃ s, values[i.toNat]? = some s ∧ n.value? i = some s ∧ n.id? s = some i
  value?_id? : ∀ s ∈ values, ∃ i, n.id? s = some i ∧ n.value? i = some s
  id?_eq_none : ∀ s, s ∉ values → n.id? s = none
  resolve_other : ∀ i : StateId, values.length ≤ i.toNat → some (n.resolve i) = values.head?

lemma bijective_values {n : Numbering σ} (hsize : n.size ≤ UInt32.size) :
    n.Bijective n.values where
  id?_value? := by
    intro i hi
    have hvalue : n.value? i = some n.values[i.toNat] := List.getElem?_eq_getElem hi
    exact ⟨n.values[i.toNat], hvalue, hvalue, (id?_eq_some_iff hsize).mpr hvalue⟩
  value?_id? := by
    intro s hs
    obtain ⟨i, hi⟩ := exists_id? hs
    exact ⟨i, hi, (id?_eq_some_iff hsize).mp hi⟩
  id?_eq_none := fun _ => id?_eq_none_iff.mpr
  resolve_other := by
    intro i hi
    rw [resolve_of_size_le hi, head?_values]

/-! ### Labels that can be numbered -/

lemma firstRepeat?_eq_none {seen l : List σ} (hl : l.Nodup) (hseen : ∀ s ∈ l, s ∉ seen) :
    firstRepeat? seen l = none := by
  induction l generalizing seen with
  | nil => rfl
  | cons a l ih =>
    obtain ⟨ha, hl⟩ := List.nodup_cons.mp hl
    rw [firstRepeat?, if_neg (hseen a (by simp))]
    refine ih hl fun s hs hmem => ?_
    rcases List.mem_cons.mp hmem with rfl | hmem
    · exact ha hs
    · exact hseen s (List.mem_cons_of_mem _ hs) hmem

variable [Label σ] {values : List σ}

lemma exists_ofValues (hlength : 2 ≤ values.length) (hnodup : values.Nodup) :
    ∃ n, ofValues values = .ok n := by
  rw [ofValues, dif_neg (by omega)]
  split
  · next s hs =>
    rw [firstRepeat?_eq_none hnodup (by simp)] at hs
    cases hs
  · exact ⟨_, rfl⟩

lemma exists_ofValues_iff :
    (∃ n, ofValues values = .ok n) ↔ 2 ≤ values.length ∧ values.Nodup := by
  constructor
  · rintro ⟨n, hn⟩
    obtain rfl := ofValues_eq_ok hn
    exact ⟨n.two_le_length, n.nodup⟩
  · rintro ⟨hlength, hnodup⟩
    exact exists_ofValues hlength hnodup

end StateMachine.Numbering
