import Mathlib.Algebra.Order.Field.Power
import Mathlib.Algebra.Order.Field.Rat
import Mathlib.Data.Nat.Log
import Mathlib.Order.Monotone.Basic
import Mathlib.Tactic.FieldSimp
import Mathlib.Tactic.Linarith
import Mathlib.Tactic.Positivity
import Mathlib.Tactic.Ring
import StateMachine.Number.Reading

/-!
# Rounding to the nearest pattern

A pattern is nearest to a number if no other pattern is nearer, and if its significand is even in
case another one is as near. Infinity counts as the power of two that would come next, so that
numbers beyond the middle between it and the largest finite number are rounded to it.

Patterns that follow each other have increasing values, so all of this can be said with the two
neighbours of a pattern: the number lies between the two middles. `Format.round` gives such a
pattern for every fraction.
-/

namespace StateMachine

namespace Format

variable (f : Format)

/-- The number that an unsigned pattern stands for. -/
def value (bits : Nat) : ℚ := f.significand bits * 2 ^ f.exponent bits

/-- The pattern is nearest to a number, ties to the even significand. -/
structure Nearest (q : ℚ) (b : Nat) : Prop where
  le_infinity : b ≤ f.infinity
  le_dist : ∀ c ≤ f.infinity, |f.value b - q| ≤ |f.value c - q|
  even_of_tie : ∀ c ≤ f.infinity, c ≠ b → |f.value c - q| = |f.value b - q| →
    Even (f.significand b)

/-- A format with a fraction, and with an exponent besides the one of infinity. -/
structure Proper : Prop where
  fractionBits_pos : 0 < f.fractionBits
  exponentBits_pos : 0 < f.exponentBits

lemma proper_binary32 : binary32.Proper := ⟨by decide, by decide⟩

lemma proper_binary64 : binary64.Proper := ⟨by decide, by decide⟩

/-! ### Values of patterns -/

/-- The number of a pattern in a format with exponents of any size. -/
def grid (b : Nat) : ℚ :=
  (if b / 2 ^ f.fractionBits = 0 then b % 2 ^ f.fractionBits
    else b % 2 ^ f.fractionBits + 2 ^ f.fractionBits : Nat) *
      2 ^ (f.minExponent + (b / 2 ^ f.fractionBits - 1 : Nat))

variable {f}

lemma infinity_lt_signWeight : f.infinity < f.signWeight := by
  have hfraction : 0 < 2 ^ f.fractionBits := by positivity
  have hexponent : 0 < 2 ^ f.exponentBits := by positivity
  simp only [infinity, signWeight, Nat.pow_eq, Nat.pow_add]
  exact Nat.mul_lt_mul_of_pos_right (by omega) hfraction

lemma magnitude_of_lt {b : Nat} (hb : b < f.signWeight) : f.magnitude b = b := Nat.mod_eq_of_lt hb

lemma value_eq_grid {b : Nat} (hb : b ≤ f.infinity) : f.value b = f.grid b := by
  have hmag := magnitude_of_lt (hb.trans_lt infinity_lt_signWeight)
  simp only [value, grid, significand, exponent, exponentField, fractionField, hmag, Nat.pow_eq]

/-- A significand with its place is a pattern, also if it carries over to the next exponent. -/
lemma grid_eq {k n : Nat} (hk : k = 0 ∨ 2 ^ f.fractionBits ≤ n)
    (hn : n ≤ 2 ^ (f.fractionBits + 1)) :
    f.grid (k * 2 ^ f.fractionBits + n) = n * 2 ^ (f.minExponent + k) := by
  rw [grid]
  have hpos : 0 < 2 ^ f.fractionBits := by positivity
  rw [pow_succ] at hn
  generalize hp : 2 ^ f.fractionBits = p at hpos hk hn ⊢
  have hdiv : (k * p + n) / p = k + n / p := by
    rw [Nat.add_comm, Nat.add_mul_div_right _ _ hpos, Nat.add_comm]
  have hmod : (k * p + n) % p = n % p := by
    rw [Nat.add_comm, Nat.add_mul_mod_self_right]
  rw [hdiv, hmod]
  rcases Nat.lt_or_ge n p with hlt | hge
  · obtain rfl : k = 0 := hk.resolve_right (by omega)
    simp [Nat.div_eq_of_lt hlt, Nat.mod_eq_of_lt hlt]
  rcases Nat.lt_or_ge n (p * 2) with hlt | hge'
  · have hquot : n / p = 1 := Nat.div_eq_of_lt_le (by omega) (by omega)
    have hrest : n % p + p = n := by
      have := Nat.div_add_mod n p
      rw [hquot] at this
      omega
    simp [hquot, hrest]
  · -- the carry makes the next exponent
    obtain rfl : n = p * 2 := by omega
    have hsplit : f.minExponent + ((k + 2 - 1 : Nat) : Int) = f.minExponent + k + 1 := by omega
    rw [Nat.mul_div_cancel_left _ hpos, Nat.mul_mod_right, hsplit, if_neg (by omega),
      zpow_add_one₀ (by norm_num)]
    push_cast
    ring

/-- Every pattern is a significand with its place. -/
lemma exists_place (b : Nat) :
    ∃ k n, b = k * 2 ^ f.fractionBits + n ∧ (k = 0 ∨ 2 ^ f.fractionBits ≤ n) ∧
      n < 2 ^ (f.fractionBits + 1) := by
  have hpos : 0 < 2 ^ f.fractionBits := by positivity
  rw [pow_succ]
  generalize 2 ^ f.fractionBits = p at hpos
  have hsplit := Nat.div_add_mod' b p
  have hlt := Nat.mod_lt b hpos
  cases hquot : b / p with
  | zero =>
    rw [hquot] at hsplit
    exact ⟨0, b, by simp, Or.inl rfl, by omega⟩
  | succ k =>
    rw [hquot, Nat.succ_mul] at hsplit
    exact ⟨k, p + b % p, by omega, Or.inr (by omega), by omega⟩

lemma grid_lt_grid_succ (b : Nat) : f.grid b < f.grid (b + 1) := by
  obtain ⟨k, n, rfl, hk, hn⟩ := f.exists_place b
  rw [Nat.add_assoc, grid_eq hk hn.le, grid_eq (hk.imp_right (by omega)) hn]
  have hplace : (0 : ℚ) < 2 ^ (f.minExponent + k) := by positivity
  push_cast
  linarith

lemma grid_strictMono : StrictMono f.grid := strictMono_nat_of_lt_succ grid_lt_grid_succ

lemma value_lt_value {a b : Nat} (hab : a < b) (hb : b ≤ f.infinity) : f.value a < f.value b := by
  rw [value_eq_grid (hab.le.trans hb), value_eq_grid hb]
  exact grid_strictMono hab

lemma value_le_value {a b : Nat} (hab : a ≤ b) (hb : b ≤ f.infinity) : f.value a ≤ f.value b := by
  rw [value_eq_grid (hab.trans hb), value_eq_grid hb]
  exact grid_strictMono.monotone hab

lemma Proper.even_significand (hf : f.Proper) {b : Nat} (hb : b ≤ f.infinity) :
    Even (f.significand b) ↔ Even b := by
  have hmag := magnitude_of_lt (hb.trans_lt infinity_lt_signWeight)
  have heven : 2 ∣ 2 ^ f.fractionBits := dvd_pow_self 2 hf.fractionBits_pos.ne'
  have hmod : Even (b % 2 ^ f.fractionBits) ↔ Even b := by
    rw [even_iff_two_dvd, even_iff_two_dvd, Nat.dvd_mod_iff heven]
  simp only [significand, exponentField, fractionField, hmag, Nat.pow_eq]
  split
  · exact hmod
  · rw [Nat.even_add, hmod, iff_true_right (even_iff_two_dvd.mpr heven)]

/-! ### Neighbours -/

lemma dist_le_left {u v q : ℚ} (h : u < v) : |v - q| ≤ |u - q| ↔ u + v ≤ 2 * q := by
  rw [← sq_le_sq]
  constructor <;> intro hle <;> nlinarith

lemma dist_le_right {u v q : ℚ} (h : u < v) : |u - q| ≤ |v - q| ↔ 2 * q ≤ u + v := by
  rw [← sq_le_sq]
  constructor <;> intro hle <;> nlinarith

lemma dist_eq {u v q : ℚ} (h : u < v) : |u - q| = |v - q| ↔ u + v = 2 * q := by
  rw [le_antisymm_iff, dist_le_right h, dist_le_left h, and_comm, ← le_antisymm_iff]

/-- The number is between the middles to the other patterns, and on one of them only if the
pattern is even. -/
structure Cell (f : Format) (q : ℚ) (b : Nat) : Prop where
  le_infinity : b ≤ f.infinity
  below : ∀ a < b, f.value a + f.value b ≤ 2 * q ∧ (f.value a + f.value b = 2 * q → Even b)
  above : ∀ c ≤ f.infinity, b < c →
    2 * q ≤ f.value b + f.value c ∧ (2 * q = f.value b + f.value c → Even b)

lemma Proper.nearest_iff_cell (hf : f.Proper) {q : ℚ} {b : Nat} : f.Nearest q b ↔ f.Cell q b := by
  constructor
  · intro h
    refine ⟨h.le_infinity, fun a ha => ?_, fun c hc hbc => ?_⟩
    · have hlt := value_lt_value ha h.le_infinity
      have hle := ha.le.trans h.le_infinity
      refine ⟨(dist_le_left hlt).mp (h.le_dist a hle), fun htie => ?_⟩
      exact (hf.even_significand h.le_infinity).mp
        (h.even_of_tie a hle ha.ne ((dist_eq hlt).mpr htie))
    · have hlt := value_lt_value hbc hc
      refine ⟨(dist_le_right hlt).mp (h.le_dist c hc), fun htie => ?_⟩
      exact (hf.even_significand h.le_infinity).mp
        (h.even_of_tie c hc hbc.ne' ((dist_eq hlt).mpr htie.symm).symm)
  · intro h
    refine ⟨h.le_infinity, fun c hc => ?_, fun c hc hne htie => ?_⟩
    · rcases Nat.lt_trichotomy c b with hlt | rfl | hgt
      · exact (dist_le_left (value_lt_value hlt h.le_infinity)).mpr (h.below c hlt).1
      · exact le_rfl
      · exact (dist_le_right (value_lt_value hgt hc)).mpr (h.above c hc hgt).1
    · rw [hf.even_significand h.le_infinity]
      rcases Nat.lt_or_gt_of_ne hne with hlt | hgt
      · exact (h.below c hlt).2 ((dist_eq (value_lt_value hlt h.le_infinity)).mp htie)
      · exact (h.above c hc hgt).2 ((dist_eq (value_lt_value hgt hc)).mp htie.symm).symm

/-- Only the neighbours matter. -/
lemma Cell.of_neighbours {q : ℚ} {b : Nat} (hb : b ≤ f.infinity)
    (hbelow : ∀ a, b = a + 1 →
      f.value a + f.value b ≤ 2 * q ∧ (f.value a + f.value b = 2 * q → Even b))
    (habove : b < f.infinity →
      2 * q ≤ f.value b + f.value (b + 1) ∧ (2 * q = f.value b + f.value (b + 1) → Even b)) :
    f.Cell q b := by
  refine ⟨hb, fun a ha => ?_, fun c hc hbc => ?_⟩
  · obtain ⟨d, rfl⟩ := Nat.exists_eq_add_of_lt ha
    have hnear := hbelow (a + d) rfl
    rcases Nat.eq_zero_or_pos d with rfl | hd
    · exact hnear
    · have hlt := f.value_lt_value (a := a) (b := a + d) (by omega) (by omega)
      exact ⟨by linarith [hnear.1], fun htie => absurd htie (by linarith [hnear.1])⟩
  · have hnear := habove (hbc.trans_le hc)
    rcases Nat.eq_or_lt_of_le (Nat.succ_le_of_lt hbc) with rfl | hlt
    · exact hnear
    · have hlt := value_lt_value hlt hc
      exact ⟨by linarith [hnear.1], fun htie => absurd htie (by linarith [hnear.1])⟩

/-! ### Rounding to integers -/

/-- The integer is nearest to the number, ties to even. -/
structure Rounded (x : ℚ) (n : Nat) : Prop where
  le : 2 * x ≤ 2 * n + 1
  even_of_eq : 2 * x = 2 * n + 1 → Even n
  ge : 2 * n ≤ 2 * x + 1
  even_of_eq' : 2 * (n : ℚ) = 2 * x + 1 → Even n

lemma rounded_roundDiv (num : Nat) {den : Nat} (hden : 0 < den) :
    Rounded (num / den) (roundDiv num den) := by
  have hden' : (0 : ℚ) < den := by exact_mod_cast hden
  have hmod := Nat.mod_lt num hden
  have hx : (num : ℚ) / den = (num / den : Nat) + ((num % den : Nat) : ℚ) / den := by
    rw [eq_comm, eq_div_iff hden'.ne', add_mul, div_mul_cancel₀ _ hden'.ne', mul_comm]
    exact_mod_cast Nat.div_add_mod num den
  rw [hx, roundDiv]
  generalize num / den = q, num % den = r at hmod
  have hnonneg : (0 : ℚ) ≤ r / den := by positivity
  have hlt : (r : ℚ) / den < 1 := (div_lt_one hden').mpr (by exact_mod_cast hmod)
  rcases Nat.lt_trichotomy (2 * r) den with hsmall | hhalf | hlarge
  · have hsmall' : 2 * ((r : ℚ) / den) < 1 := by
      rw [← mul_div_assoc, div_lt_one hden']
      exact_mod_cast hsmall
    rw [if_pos hsmall]
    exact ⟨by linarith, fun _ => by linarith, by linarith, fun _ => by linarith⟩
  · have hhalf' : 2 * ((r : ℚ) / den) = 1 := by
      rw [← mul_div_assoc, div_eq_one_iff_eq hden'.ne']
      exact_mod_cast hhalf
    rw [if_neg (by omega), if_neg (by omega)]
    have heven : Even (q + q % 2) := by grind
    have hone : ((q % 2 : Nat) : ℚ) ≤ 1 := by exact_mod_cast (by omega : q % 2 ≤ 1)
    refine ⟨?_, fun _ => heven, ?_, fun _ => heven⟩ <;> push_cast <;> linarith
  · have hlarge' : 1 < 2 * ((r : ℚ) / den) := by
      rw [← mul_div_assoc, one_lt_div hden']
      exact_mod_cast hlarge
    rw [if_neg (by omega), if_pos hlarge]
    refine ⟨?_, fun h => ?_, ?_, fun h => ?_⟩ <;> push_cast at * <;> linarith

/-- A power with an integer exponent as a fraction of natural powers. -/
lemma zpow_eq_div (a : ℚ) (e : Int) : a ^ e = a ^ e.toNat / a ^ (-e).toNat := by
  rcases Int.le_total 0 e with h | h
  · obtain ⟨n, rfl⟩ := Int.eq_ofNat_of_zero_le h
    simp
  · obtain ⟨n, hn⟩ := Int.eq_ofNat_of_zero_le (Int.neg_nonneg.mpr h)
    obtain rfl : e = -n := by omega
    simp

lemma rounded_roundAt (num : Nat) {den : Nat} (hden : 0 < den) (e : Int) :
    Rounded (num / den / 2 ^ e) (roundAt num den e) := by
  have hden' : (den : ℚ) ≠ 0 := by exact_mod_cast hden.ne'
  have h := rounded_roundDiv (num * 2 ^ (-e).toNat) (Nat.mul_pos hden (Nat.two_pow_pos e.toNat))
  have hx : (num : ℚ) / den / 2 ^ e =
      ((num * 2 ^ (-e).toNat : Nat) : ℚ) / (den * 2 ^ e.toNat : Nat) := by
    rw [zpow_eq_div]
    push_cast
    field_simp
  rw [hx]
  exact h

/-! ### The last place -/

/-- The leading bits of numerator and denominator give the size of a fraction up to a factor of
two. -/
lemma between_two_pow {num den : Nat} (hnum : 0 < num) (hden : 0 < den) :
    (2 : ℚ) ^ ((num.log2 : Int) - den.log2 - 1) ≤ (num : ℚ) / den ∧
      (num : ℚ) / den < 2 ^ ((num.log2 : Int) - den.log2 + 1) := by
  have hden' : (0 : ℚ) < den := by exact_mod_cast hden
  have hnumLow : (2 : ℚ) ^ num.log2 ≤ num := by exact_mod_cast Nat.log2_self_le hnum.ne'
  have hnumHigh : (num : ℚ) < 2 ^ (num.log2 + 1) := by exact_mod_cast Nat.lt_log2_self
  have hdenLow : (2 : ℚ) ^ den.log2 ≤ den := by exact_mod_cast Nat.log2_self_le hden.ne'
  have hdenHigh : (den : ℚ) < 2 ^ (den.log2 + 1) := by exact_mod_cast Nat.lt_log2_self
  constructor
  · rw [le_div_iff₀ hden']
    calc (2 : ℚ) ^ ((num.log2 : Int) - den.log2 - 1) * den
        ≤ 2 ^ ((num.log2 : Int) - den.log2 - 1) * 2 ^ (den.log2 + 1) := by gcongr
      _ = 2 ^ num.log2 := by
          rw [← zpow_natCast, ← zpow_natCast, ← zpow_add₀ (by norm_num)]
          congr 1
          push_cast
          ring
      _ ≤ num := hnumLow
  · rw [div_lt_iff₀ hden']
    calc (num : ℚ) < 2 ^ (num.log2 + 1) := hnumHigh
      _ = 2 ^ ((num.log2 : Int) - den.log2 + 1) * 2 ^ den.log2 := by
          rw [← zpow_natCast, ← zpow_natCast, ← zpow_add₀ (by norm_num)]
          congr 1
          push_cast
          ring
      _ ≤ 2 ^ ((num.log2 : Int) - den.log2 + 1) * den := by gcongr

lemma lt_two_pow_iff (num : Nat) {den : Nat} (hden : 0 < den) (e : Int) (p : Nat) :
    num * Nat.pow 2 (-e).toNat < den * Nat.pow 2 (p + e.toNat) ↔
      (num : ℚ) / den < 2 ^ (e + p) := by
  have hden' : (0 : ℚ) < den := by exact_mod_cast hden
  rw [zpow_add₀ (by norm_num), zpow_eq_div, zpow_natCast, div_lt_iff₀ hden', div_mul_eq_mul_div,
    div_mul_eq_mul_div, lt_div_iff₀ (by positivity), ← Nat.cast_lt (α := ℚ)]
  simp only [Nat.pow_eq]
  push_cast
  rw [pow_add, mul_comm (den : ℚ), mul_comm (2 ^ p : ℚ)]

/-- The last place leaves as many digits as the significand has, unless the number is subnormal. -/
lemma lastPlace_spec {num den : Nat} (hnum : 0 < num) (hden : 0 < den) :
    f.minExponent ≤ f.lastPlace num den ∧
      (num : ℚ) / den < 2 ^ (f.lastPlace num den + f.fractionBits + 1) ∧
      (f.lastPlace num den = f.minExponent ∨
        2 ^ (f.lastPlace num den + f.fractionBits) ≤ (num : ℚ) / den) := by
  obtain ⟨hlow, hhigh⟩ := between_two_pow hnum hden
  have hsmall := lt_two_pow_iff num hden (num.log2 - den.log2 - f.fractionBits) f.fractionBits
  rw [sub_add_cancel] at hsmall
  -- the place before the subnormal one is taken into account
  obtain ⟨e, he, hlt, hge⟩ : ∃ e, f.lastPlace num den = max e f.minExponent ∧
      (num : ℚ) / den < 2 ^ (e + f.fractionBits + 1) ∧
      2 ^ (e + f.fractionBits) ≤ (num : ℚ) / den := by
    by_cases h : (num : ℚ) / den < 2 ^ ((num.log2 : Int) - den.log2)
    · refine ⟨num.log2 - den.log2 - f.fractionBits - 1, ?_, ?_, ?_⟩
      · simp only [lastPlace, if_pos (hsmall.mpr h)]
      · convert h using 2
        ring
      · convert hlow using 2
        ring
    · refine ⟨num.log2 - den.log2 - f.fractionBits, ?_, ?_, ?_⟩
      · simp only [lastPlace, if_neg (mt hsmall.mp h)]
      · convert hhigh using 2
        ring
      · rw [sub_add_cancel]
        exact not_lt.mp h
  rw [he]
  refine ⟨le_max_right _ _, hlt.trans_le ?_, ?_⟩
  · exact zpow_le_zpow_right₀ (by norm_num) (by omega)
  · rcases le_total e f.minExponent with hle | hle
    · exact Or.inl (max_eq_right hle)
    · exact Or.inr (by rwa [max_eq_left hle])

/-! ### Rounding to patterns -/

section Place

variable {x : ℚ} {k n : Nat}

lemma Rounded.le_of_lt (h : Rounded x n) {m : Nat} (hx : x < m) : n ≤ m := by
  have hlt : 2 * (n : ℚ) < 2 * m + 1 := by linarith [h.ge]
  have hlt' : 2 * n < 2 * m + 1 := by exact_mod_cast hlt
  omega

lemma Rounded.le_of_le (h : Rounded x n) {m : Nat} (hx : (m : ℚ) ≤ x) : m ≤ n := by
  have hle : 2 * (m : ℚ) ≤ 2 * n + 1 := by linarith [h.le]
  have hle' : 2 * m ≤ 2 * n + 1 := by exact_mod_cast hle
  omega

lemma Proper.even_place (hf : f.Proper) (k n : Nat) :
    Even (k * 2 ^ f.fractionBits + n) ↔ Even n := by
  have heven : Even (2 ^ f.fractionBits) :=
    (Nat.even_pow' hf.fractionBits_pos.ne').mpr even_two
  rw [Nat.even_add, iff_true_left (heven.mul_left k)]

variable (hf : f.Proper) (hround : Rounded x n) (hlt : x < (2 ^ (f.fractionBits + 1) : Nat))
  (hge : k = 0 ∨ ((2 ^ f.fractionBits : Nat) : ℚ) ≤ x)

include hf hround hlt hge

lemma above_place :
    2 * (x * 2 ^ (f.minExponent + k)) ≤
        f.grid (k * 2 ^ f.fractionBits + n) + f.grid (k * 2 ^ f.fractionBits + n + 1) ∧
      (2 * (x * 2 ^ (f.minExponent + k)) =
        f.grid (k * 2 ^ f.fractionBits + n) + f.grid (k * 2 ^ f.fractionBits + n + 1) →
          Even (k * 2 ^ f.fractionBits + n)) := by
  have hk : k = 0 ∨ 2 ^ f.fractionBits ≤ n := hge.imp_right hround.le_of_le
  have hn := hround.le_of_lt hlt
  have hplace : (0 : ℚ) < 2 ^ (f.minExponent + k) := by positivity
  rw [hf.even_place, grid_eq hk hn]
  rcases Nat.lt_or_ge n (2 ^ (f.fractionBits + 1)) with hn' | hn'
  · rw [Nat.add_assoc, grid_eq (hk.imp_right (by omega)) hn']
    push_cast
    refine ⟨by nlinarith [hround.le], fun htie => hround.even_of_eq ?_⟩
    exact mul_right_cancel₀ hplace.ne' (by linarith)
  · -- the number is less than the pattern itself, which carries to the next exponent
    have hsucc : f.grid (k * 2 ^ f.fractionBits + n) < _ := grid_lt_grid_succ _
    rw [grid_eq hk hn] at hsucc
    have hxn : x < n := hlt.trans_le (by exact_mod_cast hn')
    have hself : x * 2 ^ (f.minExponent + k) < n * 2 ^ (f.minExponent + k) := by gcongr
    exact ⟨by linarith, fun htie => by linarith⟩

lemma below_place {a : Nat} (ha : k * 2 ^ f.fractionBits + n = a + 1) :
    f.grid a + f.grid (k * 2 ^ f.fractionBits + n) ≤ 2 * (x * 2 ^ (f.minExponent + k)) ∧
      (f.grid a + f.grid (k * 2 ^ f.fractionBits + n) = 2 * (x * 2 ^ (f.minExponent + k)) →
        Even (k * 2 ^ f.fractionBits + n)) := by
  have hk : k = 0 ∨ 2 ^ f.fractionBits ≤ n := hge.imp_right hround.le_of_le
  have hn := hround.le_of_lt hlt
  have hplace : (0 : ℚ) < 2 ^ (f.minExponent + k) := by positivity
  have hpow : 0 < 2 ^ f.fractionBits := by positivity
  obtain ⟨m, rfl⟩ : ∃ m, n = m + 1 := by
    refine Nat.exists_eq_succ_of_ne_zero fun h => ?_
    rcases hk with rfl | hk <;> omega
  obtain rfl : a = k * 2 ^ f.fractionBits + m := by omega
  rw [hf.even_place]
  by_cases hm : k = 0 ∨ 2 ^ f.fractionBits ≤ m
  · rw [grid_eq hk hn, grid_eq hm (by omega)]
    have hge' := hround.ge
    have heven := hround.even_of_eq'
    push_cast at hge' heven ⊢
    refine ⟨by nlinarith, fun htie => heven ?_⟩
    exact mul_right_cancel₀ hplace.ne' (by linarith)
  · -- the pattern is the first one of its exponent, and the number is at least as large
    have hsucc := f.grid_lt_grid_succ (k * 2 ^ f.fractionBits + m)
    have hself : ((m + 1 : Nat) : ℚ) ≤ x := by
      have hfirst : m + 1 = 2 ^ f.fractionBits := by omega
      rw [hfirst]
      exact hge.resolve_left (by omega)
    rw [Nat.add_assoc, grid_eq hk hn] at hsucc
    rw [grid_eq hk hn]
    have hself' : ((m + 1 : Nat) : ℚ) * 2 ^ (f.minExponent + k) ≤
        x * 2 ^ (f.minExponent + k) := by gcongr
    exact ⟨by linarith, fun htie => by linarith⟩

/-- Too large patterns are cut off at infinity. -/
lemma cell_place :
    f.Cell (x * 2 ^ (f.minExponent + k)) (min (k * 2 ^ f.fractionBits + n) f.infinity) := by
  have hbelow := fun a => below_place (a := a) hf hround hlt hge
  have habove := above_place hf hround hlt hge
  generalize k * 2 ^ f.fractionBits + n = r at hbelow habove
  rcases Nat.lt_or_ge f.infinity r with hover | hle
  · rw [min_eq_right hover.le]
    refine Cell.of_neighbours le_rfl (fun a ha => ?_) (fun h => absurd h (lt_irrefl _))
    obtain ⟨s, rfl⟩ := Nat.exists_eq_succ_of_ne_zero (Nat.ne_of_gt (Nat.zero_lt_of_lt hover))
    have hself : f.grid f.infinity < f.grid (s + 1) := grid_strictMono hover
    have hprev : f.grid a < f.grid s := grid_strictMono (by omega)
    have hle := (hbelow s rfl).1
    rw [value_eq_grid (by omega), value_eq_grid le_rfl]
    exact ⟨by linarith, fun htie => by linarith⟩
  · rw [min_eq_left hle]
    refine Cell.of_neighbours hle (fun a ha => ?_) (fun hlt => ?_)
    · rw [value_eq_grid hle, value_eq_grid (by omega)]
      exact hbelow a ha
    · rw [value_eq_grid hle, value_eq_grid hlt]
      exact habove

end Place

lemma Proper.nearest_zero (hf : f.Proper) {q : ℚ} (hlt : 2 * q < 2 ^ f.minExponent) :
    f.Nearest q 0 := by
  refine hf.nearest_iff_cell.mpr
    ⟨Nat.zero_le _, fun a ha => absurd ha (Nat.not_lt_zero a), fun c hc hpos => ?_⟩
  have hone : f.grid 1 = 2 ^ f.minExponent := by
    simpa using f.grid_eq (Or.inl rfl) (Nat.one_le_two_pow (n := f.fractionBits + 1))
  have hzero : f.grid 0 = 0 := by simp [grid]
  have hle : f.grid 1 ≤ f.grid c := grid_strictMono.monotone hpos
  rw [value_eq_grid hc, value_eq_grid (Nat.zero_le _), hzero]
  exact ⟨by linarith, fun _ => Even.zero⟩

lemma Proper.value_infinity (hf : f.Proper) :
    f.value f.infinity = 2 ^ 2 ^ (f.exponentBits - 1) := by
  obtain ⟨w, hw⟩ := Nat.exists_eq_succ_of_ne_zero hf.exponentBits_pos.ne'
  have hpow : 0 < 2 ^ w := by positivity
  have hsplit :
      f.infinity = (2 ^ f.exponentBits - 2) * 2 ^ f.fractionBits + 2 ^ f.fractionBits := by
    have htwo : 2 ^ f.exponentBits - 1 = 2 ^ f.exponentBits - 2 + 1 := by
      rw [hw, pow_succ]
      omega
    rw [infinity, Nat.pow_eq, Nat.pow_eq, htwo, Nat.succ_mul]
  rw [value_eq_grid le_rfl, hsplit, grid_eq (Or.inr le_rfl) (by rw [pow_succ]; omega)]
  push_cast
  rw [← zpow_natCast, ← zpow_natCast, ← zpow_add₀ (by norm_num)]
  congr 1
  simp only [minExponent, Nat.pow_eq, hw, Nat.succ_sub_one, Nat.succ_eq_add_one, pow_succ]
  omega

lemma Proper.nearest_infinity (hf : f.Proper) {q : ℚ} (hq : f.value f.infinity ≤ q) :
    f.Nearest q f.infinity := by
  refine hf.nearest_iff_cell.mpr
    ⟨le_rfl, fun a ha => ?_, fun c hc hlt => absurd hlt (not_lt_of_ge hc)⟩
  have hlt := value_lt_value ha le_rfl
  exact ⟨by linarith, fun htie => by linarith⟩

/-- Fractions are rounded to a nearest pattern. -/
theorem Proper.nearest_round (hf : f.Proper) (num : Nat) {den : Nat} (hden : 0 < den) :
    f.Nearest (num / den) (f.round num den) := by
  rw [round]
  rcases Nat.eq_zero_or_pos num with rfl | hnum
  · simpa using hf.nearest_zero (by simpa using zpow_pos two_pos f.minExponent)
  rw [if_neg hnum.ne']
  obtain ⟨hmin, hlt, hge⟩ := f.lastPlace_spec hnum hden
  obtain ⟨k, hk⟩ := Int.eq_ofNat_of_zero_le (Int.sub_nonneg.mpr hmin)
  have hround := rounded_roundAt num hden (f.lastPlace num den)
  obtain he : f.lastPlace num den = f.minExponent + k := by omega
  have hplace : (0 : ℚ) < 2 ^ (f.minExponent + k) := by positivity
  rw [he] at hlt hge hround
  have hshift (m : Nat) : ((2 ^ m : Nat) : ℚ) * 2 ^ (f.minExponent + k) =
      2 ^ (f.minExponent + k + m) := by
    rw [zpow_add₀ (by norm_num) _ (m : Int), zpow_natCast, mul_comm]
    push_cast
    rfl
  have hcell := cell_place (k := k) hf hround
    ((div_lt_iff₀ hplace).mpr (by rwa [hshift, Nat.cast_succ, ← add_assoc]))
    (hge.imp (by omega) fun hle => (le_div_iff₀ hplace).mpr (by rwa [hshift]))
  rw [div_mul_cancel₀ _ hplace.ne'] at hcell
  simpa [hk, he] using hf.nearest_iff_cell.mpr hcell

/-! ### What a nearest pattern determines -/

section Nearest

variable (hf : f.Proper) {q r : ℚ} {b c : Nat}

include hf

theorem Proper.nearest_unique (hb : f.Nearest q b) (hc : f.Nearest q c) : b = c := by
  rw [hf.nearest_iff_cell] at hb hc
  -- otherwise both are even, but then one between them is nearer
  by_contra hne
  wlog hlt : b < c generalizing b c
  · exact this hc hb (Ne.symm hne) (by omega)
  obtain ⟨hle, hevenB⟩ := hb.above c hc.le_infinity hlt
  obtain ⟨hge, hevenC⟩ := hc.below b hlt
  have htie : 2 * q = f.value b + f.value c := le_antisymm hle hge
  have hparity := Nat.even_iff.mp (hevenB htie)
  have hparity' := Nat.even_iff.mp (hevenC htie.symm)
  have hnear := (hb.above (b + 1) (by have := hc.le_infinity; omega) (by omega)).1
  have hless := f.value_lt_value (a := b + 1) (b := c) (by omega) hc.le_infinity
  linarith

/-- The nearest pattern does not cross another one. -/
lemma Proper.le_of_le_value (hb : f.Nearest q b) (h : q ≤ f.value c) : b ≤ c := by
  by_contra hlt
  have hless := value_lt_value (not_le.mp hlt) hb.le_infinity
  have hge := ((hf.nearest_iff_cell.mp hb).below c (not_le.mp hlt)).1
  linarith

lemma Proper.ge_of_ge_value (hb : f.Nearest q b) (hc : c ≤ f.infinity) (h : f.value c ≤ q) :
    c ≤ b := by
  by_contra hlt
  have hless := value_lt_value (not_le.mp hlt) hc
  have hge := ((hf.nearest_iff_cell.mp hb).above c hc (not_le.mp hlt)).1
  linarith

end Nearest

end Format

/-! ### Decimals -/

namespace Decimal

/-- The number that a decimal stands for. -/
def value (d : Decimal) : ℚ := d.digits * 10 ^ d.exponent

variable {d : Decimal}

lemma value_lt_order (d : Decimal) : d.value < 10 ^ d.order := by
  have hpos : 0 < (Nat.toDigits 10 d.digits).length := Nat.length_toDigits_pos
  have hlt : (d.digits : ℚ) < 10 ^ (Nat.toDigits 10 d.digits).length := by
    exact_mod_cast (Nat.length_toDigits_le_iff (by norm_num) hpos).mp le_rfl
  rw [value, order, add_comm, zpow_add₀ (by norm_num), zpow_natCast]
  gcongr

lemma order_le_value (hd : d.digits ≠ 0) : 10 ^ (d.order - 1) ≤ d.value := by
  have hpos : 0 < (Nat.toDigits 10 d.digits).length := Nat.length_toDigits_pos
  obtain ⟨m, hm⟩ := Nat.exists_eq_succ_of_ne_zero hpos.ne'
  have hle : 10 ^ m ≤ d.digits := by
    rcases Nat.eq_zero_or_pos m with rfl | hm'
    · simpa using Nat.one_le_iff_ne_zero.mpr hd
    · by_contra hlt
      have := (Nat.length_toDigits_le_iff (by norm_num) hm').mpr (not_le.mp hlt)
      omega
  have hle' : (10 : ℚ) ^ m ≤ d.digits := by exact_mod_cast hle
  have horder : d.order - 1 = m + d.exponent := by
    rw [order, hm]
    push_cast
    ring
  rw [value, horder, zpow_add₀ (by norm_num), zpow_natCast]
  gcongr

lemma value_eq_fraction (d : Decimal) : d.value = (d.fraction.1 : ℚ) / d.fraction.2 := by
  rw [value, Format.zpow_eq_div, fraction]
  simp only [Nat.pow_eq]
  push_cast
  ring

/-- Numbers with an order beyond the limit are as large as infinity. -/
lemma value_infinity_le {f : Format} (hf : f.Proper) (hd : d.digits ≠ 0)
    (horder : (limit f : Int) < d.order) : f.value f.infinity ≤ d.value := by
  have hle : ((2 ^ (f.exponentBits - 1) : Nat) : Int) ≤ d.order - 1 := by
    rw [limit, Nat.pow_eq] at horder
    omega
  calc f.value f.infinity = 2 ^ 2 ^ (f.exponentBits - 1) := hf.value_infinity
    _ ≤ 10 ^ 2 ^ (f.exponentBits - 1) := by gcongr; norm_num
    _ = 10 ^ ((2 ^ (f.exponentBits - 1) : Nat) : Int) := (zpow_natCast _ _).symm
    _ ≤ 10 ^ (d.order - 1) := zpow_le_zpow_right₀ (by norm_num) hle
    _ ≤ d.value := order_le_value hd

/-- Numbers with an order below the limit are less than half of the smallest pattern. -/
lemma value_lt_minExponent {f : Format} (horder : d.order < -(limit f : Int)) :
    2 * d.value < 2 ^ f.minExponent := by
  have hmin : f.minExponent = 2 - limit f := by
    rw [Format.minExponent, limit]
    push_cast
    ring
  calc 2 * d.value < 2 * 10 ^ d.order := by gcongr; exact d.value_lt_order
    _ ≤ 2 * 10 ^ (-(limit f : Int)) := by gcongr; norm_num
    _ ≤ 2 * 2 ^ (-(limit f : Int)) := by
        rw [zpow_neg, zpow_neg, zpow_natCast, zpow_natCast]
        gcongr
        norm_num
    _ ≤ 4 * 2 ^ (-(limit f : Int)) := by gcongr; norm_num
    _ = 2 ^ f.minExponent := by
        rw [hmin, sub_eq_add_neg, zpow_add₀ (by norm_num)]
        norm_num

/-- Decimals are rounded to a nearest pattern. -/
theorem nearest_round {f : Format} (hf : f.Proper) (d : Decimal) :
    f.Nearest d.value (d.round f) := by
  rw [round]
  split
  next hzero =>
    have hvalue : d.value = 0 := by simp [value, hzero]
    exact hf.nearest_zero (by simpa [hvalue] using zpow_pos two_pos f.minExponent)
  next hd =>
  split
  next hlarge => exact hf.nearest_infinity (value_infinity_le hf hd hlarge)
  next =>
  split
  next hsmall => exact hf.nearest_zero (value_lt_minExponent hsmall)
  next =>
    rw [value_eq_fraction]
    exact hf.nearest_round _ (Nat.pow_pos (by norm_num))

end Decimal

end StateMachine
