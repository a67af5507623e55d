import StateMachine.Proofs.Rounding

/-!
# Shortest decimals are rounded back

The numbers that are rounded to a pattern are those between the middles to its two neighbours. The
search for a shortest decimal gives a number from there, if it gives one in time. It does: each grid
is ten times as fine as the one before, and after twenty of them a grid is finer than the distance
from the pattern to the next middle.
-/

namespace StateMachine

namespace Format

variable {f : Format}

/-- A format that is no wider than double precision. -/
structure Bounded (f : Format) : Prop where
  fractionBits_le : f.fractionBits ≤ 52
  exponentBits_le : f.exponentBits ≤ 11

lemma bounded_binary32 : binary32.Bounded := ⟨by decide, by decide⟩

lemma bounded_binary64 : binary64.Bounded := ⟨by decide, by decide⟩

lemma Bounded.log2_le (hf : f.Bounded) {n : Nat} (hn : n < 2 ^ (f.fractionBits + 1)) :
    n.log2 ≤ 52 := by
  rcases Nat.eq_zero_or_pos n with rfl | hpos
  · decide
  · have hlt : n < 2 ^ 53 :=
      hn.trans_le (Nat.pow_le_pow_right two_pos (Nat.succ_le_succ hf.fractionBits_le))
    exact Nat.le_of_lt_succ ((Nat.log2_lt hpos.ne').mpr hlt)

lemma Bounded.place_lt (hf : f.Bounded) {k n : Nat} (hb : k * 2 ^ f.fractionBits + n < f.infinity) :
    k < 2 ^ 11 := by
  have hlt : k * 2 ^ f.fractionBits < 2 ^ f.exponentBits * 2 ^ f.fractionBits :=
    (Nat.le_add_right _ n).trans_lt (hb.trans_le (Nat.mul_le_mul_right _ (Nat.sub_le _ _)))
  exact (Nat.lt_of_mul_lt_mul_right hlt).trans_le (Nat.pow_le_pow_right two_pos hf.exponentBits_le)

/-- The fields of a pattern, from its significand and its place. -/
lemma fields_of_place {k n : Nat} (hk : k = 0 ∨ 2 ^ f.fractionBits ≤ n)
    (hn : n < 2 ^ (f.fractionBits + 1)) (hb : k * 2 ^ f.fractionBits + n < f.signWeight) :
    f.significand (k * 2 ^ f.fractionBits + n) = n ∧
      f.exponent (k * 2 ^ f.fractionBits + n) = f.minExponent + k ∧
      (f.fractionField (k * 2 ^ f.fractionBits + n) = 0 ∧
        1 < f.exponentField (k * 2 ^ f.fractionBits + n) ↔ 0 < k ∧ n = 2 ^ f.fractionBits) := by
  have hpos : 0 < 2 ^ f.fractionBits := by positivity
  simp only [significand, exponent, exponentField, fractionField, magnitude_of_lt hb, Nat.pow_eq]
  rw [pow_succ] at hn
  generalize 2 ^ f.fractionBits = p at hpos hk hn
  have hdiv : (k * p + n) / p = k + n / p := by
    rw [Nat.add_comm, Nat.add_mul_div_right _ _ hpos, Nat.add_comm]
  have hmod : (k * p + n) % p = n % p := by
    rw [Nat.add_comm, Nat.add_mul_mod_self_right]
  rw [hdiv, hmod]
  rcases Nat.lt_or_ge n p with hlt | hge
  · obtain rfl : k = 0 := hk.resolve_right (by omega)
    simp [Nat.div_eq_of_lt hlt, Nat.mod_eq_of_lt hlt]
  · have hquot : n / p = 1 := Nat.div_eq_of_lt_le (by omega) (by omega)
    have hrest : n % p = n - p := by
      have := Nat.div_add_mod n p
      rw [hquot] at this
      omega
    rw [hquot, hrest, if_neg (Nat.succ_ne_zero k)]
    refine ⟨by omega, by omega, by omega⟩

end Format

namespace Shortest

/-! ### Intervals -/

/-- What both sides of a comparison are multiplied with. -/
def scale (g u : Int) : ℚ := 10 ^ (-g).toNat * 2 ^ (-u).toNat

lemma scale_pos (g u : Int) : 0 < scale g u := by
  rw [scale]
  positivity

lemma onGrid_fst (g u : Int) (n m : Nat) : ((onGrid g u n m).1 : ℚ) = n * 10 ^ g * scale g u := by
  rw [scale, Format.zpow_eq_div 10 g, onGrid]
  simp only [Nat.pow_eq]
  push_cast
  field_simp

lemma onGrid_snd (g u : Int) (n m : Nat) : ((onGrid g u n m).2 : ℚ) = m * 2 ^ u * scale g u := by
  rw [scale, Format.zpow_eq_div 2 u, onGrid]
  simp only [Nat.pow_eq]
  push_cast
  field_simp

namespace Interval

/-- A number of the interval; one of its ends only if they belong to it. -/
structure Holds (i : Interval) (q : ℚ) : Prop where
  low_le : i.low * 2 ^ i.unit ≤ q
  closed_of_low : i.low * 2 ^ i.unit = q → i.closed = true
  le_high : q ≤ i.high * 2 ^ i.unit
  closed_of_high : q = i.high * 2 ^ i.unit → i.closed = true

lemma contains_iff {i : Interval} {g : Int} {n : Nat} :
    i.contains g n = true ↔ i.Holds (n * 10 ^ g) := by
  have hscale := scale_pos g i.unit
  have hlow : (onGrid g i.unit n i.low).2 ≤ (onGrid g i.unit n i.low).1 ↔
      i.low * 2 ^ i.unit ≤ (n * 10 ^ g : ℚ) := by
    rw [← Nat.cast_le (α := ℚ), onGrid_fst, onGrid_snd, mul_le_mul_iff_left₀ hscale]
  have hhigh : (onGrid g i.unit n i.low).1 ≤ (onGrid g i.unit n i.high).2 ↔
      (n * 10 ^ g : ℚ) ≤ i.high * 2 ^ i.unit := by
    rw [← Nat.cast_le (α := ℚ), onGrid_fst, onGrid_snd, mul_le_mul_iff_left₀ hscale]
  have hlow' : (onGrid g i.unit n i.low).2 < (onGrid g i.unit n i.low).1 ↔
      i.low * 2 ^ i.unit < (n * 10 ^ g : ℚ) := by
    rw [← Nat.cast_lt (α := ℚ), onGrid_fst, onGrid_snd, mul_lt_mul_iff_left₀ hscale]
  have hhigh' : (onGrid g i.unit n i.low).1 < (onGrid g i.unit n i.high).2 ↔
      (n * 10 ^ g : ℚ) < i.high * 2 ^ i.unit := by
    rw [← Nat.cast_lt (α := ℚ), onGrid_fst, onGrid_snd, mul_lt_mul_iff_left₀ hscale]
  simp only [contains, hlow, hhigh, hlow', hhigh']
  split_ifs with hclosed
  · rw [decide_eq_true_eq]
    constructor
    · rintro ⟨hle, hge⟩
      exact ⟨hle, fun _ => hclosed, hge, fun _ => hclosed⟩
    · exact fun h => ⟨h.low_le, h.le_high⟩
  · rw [decide_eq_true_eq]
    constructor
    · rintro ⟨hlt, hgt⟩
      exact ⟨hlt.le, fun heq => absurd heq hlt.ne, hgt.le, fun heq => absurd heq hgt.ne⟩
    · intro h
      exact ⟨lt_of_le_of_ne h.low_le fun heq => hclosed (h.closed_of_low heq),
        lt_of_le_of_ne h.le_high fun heq => hclosed (h.closed_of_high heq)⟩

variable {f : Format} {b : Nat}

/-- The upper end is the middle to the next pattern. -/
lemma value_add_value_succ (hb : b < f.infinity) :
    f.value b + f.value (b + 1) = 2 * ((of f b).high * 2 ^ (of f b).unit) := by
  obtain ⟨k, n, rfl, hk, hn⟩ := f.exists_place b
  obtain ⟨hm, he, -⟩ :=
    Format.fields_of_place hk hn (hb.trans Format.infinity_lt_signWeight)
  rw [Format.value_eq_grid hb.le, Format.value_eq_grid (b := _ + 1) hb, Nat.add_assoc,
    Format.grid_eq hk hn.le, Format.grid_eq (hk.imp_right (by omega)) hn]
  simp only [of, hm, he]
  rw [zpow_sub₀ (by norm_num)]
  push_cast
  ring

/-- The lower end is the middle to the pattern before. -/
lemma value_pred_add_value {a : Nat} (hb : a + 1 < f.infinity) :
    f.value a + f.value (a + 1) = 2 * ((of f (a + 1)).low * 2 ^ (of f (a + 1)).unit) := by
  obtain ⟨k, n, hplace, hk, hn⟩ := f.exists_place (a + 1)
  obtain ⟨hm, he, htight⟩ := Format.fields_of_place hk hn
    (hplace ▸ hb.trans Format.infinity_lt_signWeight)
  have hpos : 0 < 2 ^ f.fractionBits := by positivity
  obtain ⟨m, rfl⟩ : ∃ m, n = m + 1 := by
    refine Nat.exists_eq_succ_of_ne_zero fun h => ?_
    rcases hk with rfl | hk <;> omega
  rw [← hplace] at hm he htight
  have hlow : (of f (a + 1)).low =
      4 * (m + 1) - if 0 < k ∧ m + 1 = 2 ^ f.fractionBits then 1 else 2 := by
    simp only [of, hm, htight]
  have hunit : (of f (a + 1)).unit = f.minExponent + k - 2 := by
    simp only [of, he]
  rw [hlow, hunit, zpow_sub₀ (by norm_num), Format.value_eq_grid hb.le,
    Format.value_eq_grid (a.le_succ.trans hb.le), hplace, Format.grid_eq hk hn.le]
  obtain rfl : a = k * 2 ^ f.fractionBits + m := by omega
  by_cases hfirst : k = 0 ∨ 2 ^ f.fractionBits ≤ m
  · rw [Format.grid_eq hfirst (by omega), if_neg (by omega), Nat.cast_sub (by omega)]
    push_cast
    ring
  · -- the pattern is the first one of its exponent, so the one before it has a smaller place
    obtain ⟨k, rfl⟩ : ∃ i, k = i + 1 := Nat.exists_eq_succ_of_ne_zero (by omega)
    have hm' : m + 1 = 2 ^ f.fractionBits := by omega
    have hbefore : (k + 1) * 2 ^ f.fractionBits + m =
        k * 2 ^ f.fractionBits + (2 ^ f.fractionBits + m) := by ring
    rw [hbefore, Format.grid_eq (Or.inr (by omega)) (by rw [pow_succ]; omega), if_pos (by omega),
      Nat.cast_sub (by omega), ← hm']
    push_cast
    rw [← add_assoc, zpow_add_one₀ (by norm_num)]
    ring

lemma cell_of_holds (hf : f.Proper) (hb : b < f.infinity) {q : ℚ} (h : (of f b).Holds q) :
    f.Cell q b := by
  have heven : (of f b).closed = true → Even b := by
    intro hclosed
    rw [← hf.even_significand hb.le, Nat.even_iff]
    exact of_decide_eq_true hclosed
  refine Format.Cell.of_neighbours hb.le (fun a ha => ?_) fun _ => ?_
  · subst ha
    rw [value_pred_add_value hb]
    refine ⟨by linarith [h.low_le], fun htie => heven (h.closed_of_low (by linarith))⟩
  · rw [value_add_value_succ hb]
    exact ⟨by linarith [h.le_high], fun htie => heven (h.closed_of_high (by linarith))⟩

lemma significand_pos (hb : 0 < b) (hb' : b < f.infinity) : 0 < f.significand b := by
  obtain ⟨k, n, rfl, hk, hn⟩ := f.exists_place b
  rw [(Format.fields_of_place hk hn (hb'.trans Format.infinity_lt_signWeight)).1]
  have hpos : 0 < 2 ^ f.fractionBits := by positivity
  rcases hk with rfl | hk
  · simpa using hb
  · omega

/-- A neighbour that is found lies in the interval. -/
lemma holds_of_neighbour? {i : Interval} {g : Int} {n : Nat} (h : i.neighbour? g = some n) :
    i.Holds (n * 10 ^ g) := by
  rw [← contains_iff]
  simp only [neighbour?] at h
  split_ifs at h with hup hdown
  · rw [Option.some.injEq] at h
    rw [← h]
    exact (Bool.and_eq_true_iff.mp hup).1
  · rw [Option.some.injEq] at h
    rwa [← h]

/-- On a grid that is finer than the upper half of the interval, the next point above the center
lies in the interval. -/
lemma exists_neighbour? {i : Interval} {g : Int} (hlow : i.low < i.center)
    (hgrid : i.center * 2 ^ i.unit + 10 ^ g < i.high * (2 : ℚ) ^ i.unit) :
    ∃ n, i.neighbour? g = some n := by
  have hscale := scale_pos g i.unit
  have hunit : (0 : ℚ) < 2 ^ i.unit := by positivity
  have hstep : 0 < (onGrid g i.unit 1 i.center).1 := by
    rw [← Nat.cast_pos (α := ℚ), onGrid_fst]
    positivity
  obtain ⟨below, hbelow⟩ :
      ∃ n, (onGrid g i.unit 1 i.center).2 / (onGrid g i.unit 1 i.center).1 = n := ⟨_, rfl⟩
  have hle : (below : ℚ) * 10 ^ g ≤ i.center * 2 ^ i.unit := by
    have h := Nat.div_mul_le_self (onGrid g i.unit 1 i.center).2 (onGrid g i.unit 1 i.center).1
    rw [hbelow, ← Nat.cast_le (α := ℚ), Nat.cast_mul, onGrid_fst, onGrid_snd] at h
    rw [← mul_le_mul_iff_left₀ hscale]
    simpa [mul_assoc] using h
  have hlt : i.center * 2 ^ i.unit < ((below + 1 : Nat) : ℚ) * 10 ^ g := by
    have h := Nat.lt_mul_div_succ (onGrid g i.unit 1 i.center).2 hstep
    rw [hbelow, ← Nat.cast_lt (α := ℚ), Nat.cast_mul, onGrid_fst, onGrid_snd] at h
    rw [← mul_lt_mul_iff_left₀ hscale]
    calc _ < _ := h
      _ = _ := by push_cast; ring
  have hcontains : i.contains g (below + 1) = true := by
    have hlow' : (i.low : ℚ) * 2 ^ i.unit < i.center * 2 ^ i.unit := by gcongr
    have hhigh : ((below + 1 : Nat) : ℚ) * 10 ^ g < i.high * 2 ^ i.unit := by
      push_cast
      linarith
    rw [contains_iff]
    exact ⟨by linarith, fun h => by linarith, hhigh.le, fun h => absurd h hhigh.ne⟩
  simp only [neighbour?, hbelow, hcontains]
  split_ifs
  · exact ⟨_, rfl⟩
  · exact ⟨_, rfl⟩
  · simp_all

end Interval

/-- Refining the grid ends with a decimal of the interval, if a neighbour can be found in time. -/
lemma holds_search {i : Interval} {fuel j : Nat} {g : Int} (hj : j ≤ fuel)
    (h : ∃ n, i.neighbour? (g - j) = some n) : i.Holds (search i fuel g).value := by
  induction fuel generalizing g j with
  | zero =>
    obtain rfl := Nat.le_zero.mp hj
    obtain ⟨n, hn⟩ := h
    rw [Nat.cast_zero, sub_zero] at hn
    rw [search, hn]
    exact Interval.holds_of_neighbour? hn
  | succ fuel ih =>
    rw [search]
    cases hg : i.neighbour? g with
    | some n => exact Interval.holds_of_neighbour? hg
    | none =>
      cases j with
      | zero =>
        obtain ⟨n, hn⟩ := h
        rw [Nat.cast_zero, sub_zero, hg] at hn
        cases hn
      | succ j =>
        refine ih (Nat.le_of_succ_le_succ hj) ?_
        rwa [Nat.cast_succ, add_comm, ← sub_sub] at h

lemma value_trim (fuel : Nat) (d : Decimal) : (trim fuel d).value = d.value := by
  induction fuel generalizing d with
  | zero => rfl
  | succ fuel ih =>
    rw [trim]
    split_ifs with h
    · rw [ih, Decimal.value, Decimal.value, zpow_add_one₀ (by norm_num)]
      have hdigits : ((d.digits / 10 : Nat) : ℚ) * 10 = d.digits := by
        exact_mod_cast Nat.div_mul_cancel (Nat.dvd_of_mod_eq_zero h.2)
      rw [← hdigits]
      ring
    · rfl

/-! ### Powers of ten -/

/-- Powers of ten and of two are compared by a fraction `p / q` close to the logarithm. -/
lemma ten_zpow_le_of_pow {p q : Nat} {l g : Int} (hq : q ≠ 0) (hg : q * g ≤ p * l + q)
    (hpow : ((10 : ℚ) ^ p) ^ l ≤ (2 ^ q) ^ l) : (10 : ℚ) ^ g ≤ 10 * 2 ^ l := by
  rw [← pow_le_pow_iff_left₀ (by positivity) (by positivity) hq]
  calc ((10 : ℚ) ^ g) ^ q = 10 ^ (q * g) := by rw [← zpow_natCast, ← zpow_mul, mul_comm]
    _ ≤ 10 ^ (p * l + q) := zpow_le_zpow_right₀ (by norm_num) hg
    _ = (10 ^ p) ^ l * 10 ^ q := by
        rw [zpow_add₀ (by norm_num), zpow_mul, zpow_natCast, zpow_natCast]
    _ ≤ (2 ^ q) ^ l * 10 ^ q := by gcongr
    _ = (10 * 2 ^ l) ^ q := by
        rw [mul_pow, mul_comm, ← zpow_natCast (2 : ℚ) q, zpow_comm, zpow_natCast]

/-- The start of the search is not far above the number. -/
lemma ten_zpow_le {l g : Int} (hg : g * 100000 ≤ l * 30103) (hlow : -3000 ≤ l) (hhigh : l ≤ 3000) :
    (10 : ℚ) ^ g ≤ 10 * 2 ^ l := by
  rcases Int.le_total 0 l with hl | hl
  · refine ten_zpow_le_of_pow (p := 59) (q := 196) (by norm_num) (by omega) ?_
    exact zpow_le_zpow_left₀ hl (by norm_num) (by norm_num)
  · refine ten_zpow_le_of_pow (p := 28) (q := 93) (by norm_num) (by omega) ?_
    obtain ⟨m, rfl⟩ := Int.exists_eq_neg_ofNat hl
    rw [zpow_neg, zpow_neg, zpow_natCast, zpow_natCast]
    gcongr
    norm_num

/-! ### The decimal that is found -/

variable {f : Format} {b : Nat}

/-- The last grid is finer than the distance to the next middle. -/
lemma finest_grid_lt (hf : f.Bounded) (hb : b < f.infinity) :
    (10 : ℚ) ^ (startGrid f b - (20 : Nat)) < 2 * 2 ^ (f.exponent b - 2) := by
  obtain ⟨k, n, rfl, hk, hn⟩ := f.exists_place b
  obtain ⟨hm, he, -⟩ := Format.fields_of_place hk hn (hb.trans Format.infinity_lt_signWeight)
  have hlog := hf.log2_le hn
  have hplace := hf.place_lt hb
  have hmin : (2 ^ (f.exponentBits - 1) : Nat) ≤ 2 ^ 10 :=
    Nat.pow_le_pow_right two_pos (Nat.sub_le_sub_right hf.exponentBits_le 1)
  have hfraction := hf.fractionBits_le
  rw [startGrid, hm, he, Format.minExponent, Nat.pow_eq]
  generalize (2 ^ (f.exponentBits - 1) : Nat) = w at hmin
  generalize hl : (n.log2 : Int) + 1 + (2 - (w : Int) - f.fractionBits + k) = l
  have hstart := ten_zpow_le (Int.ediv_mul_le (l * 30103) (by norm_num : (100000 : Int) ≠ 0))
    (by omega) (by omega)
  calc (10 : ℚ) ^ (l * 30103 / 100000 + 1 - (20 : Nat))
      = 10 ^ (l * 30103 / 100000) / 10 ^ 19 := by
        rw [add_sub_assoc, zpow_add₀ (by norm_num)]
        norm_num
        ring
    _ ≤ 10 * 2 ^ l / 10 ^ 19 := by gcongr
    _ ≤ 10 * 2 ^ ((2 - (w : Int) - f.fractionBits + k - 2) + 55) / 10 ^ 19 := by
        gcongr
        · norm_num
        · omega
    _ < 2 * 2 ^ (2 - (w : Int) - f.fractionBits + k - 2) := by
        have hpos : (0 : ℚ) < 2 ^ (2 - (w : Int) - f.fractionBits + k - 2) := by positivity
        rw [zpow_add₀ (by norm_num)]
        norm_num
        linarith

/-- The shortest decimal of a pattern is rounded to the pattern. -/
theorem nearest_decimal (hf : f.Proper) (hf' : f.Bounded) (hb : 0 < b) (hb' : b < f.infinity) :
    f.Nearest (decimal f b).value b := by
  rw [hf.nearest_iff_cell, decimal, value_trim]
  refine Interval.cell_of_holds hf hb' (holds_search le_rfl (Interval.exists_neighbour? ?_ ?_))
  · have hpos := Interval.significand_pos hb hb'
    simp only [Interval.of]
    split_ifs <;> omega
  · have hgrid := finest_grid_lt hf' hb'
    simp only [Interval.of, Nat.cast_add, Nat.cast_ofNat] at hgrid ⊢
    linarith

lemma nearest_decimalOrZero (hf : f.Proper) (hf' : f.Bounded) (hb : b < f.infinity) :
    f.Nearest (decimalOrZero f b).value b := by
  rw [decimalOrZero, Format.magnitude_of_lt (hb.trans Format.infinity_lt_signWeight)]
  split_ifs with hzero
  · rw [hzero]
    refine hf.nearest_zero ?_
    simpa [Decimal.value] using zpow_pos two_pos f.minExponent
  · exact nearest_decimal hf hf' (Nat.pos_of_ne_zero hzero) hb

end Shortest

end StateMachine
