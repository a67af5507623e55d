import StateMachine.Proofs.Numeral

/-!
# Rounding twice

A number that is rounded to a finer format first and then to a coarser one can end up at another
pattern than if it were rounded at once, but only in one way: the finer number is in the middle of
two coarse neighbours, and the tie is decided against the side on which the original number was.

Number literals for single precision are read through double precision. So a literal is the nearest
single-precision number unless it slips, and it can also be refused although the nearest number is
finite.
-/

namespace StateMachine

namespace Format

/-- Rounding a number through another one loses on which side of a middle it was, and the middle
goes to the other side. -/
def Slips (f : Format) (q w : ℚ) : Prop :=
  ∃ b < f.infinity, f.value b + f.value (b + 1) = 2 * w ∧ (q < w ∧ Odd b ∨ w < q ∧ Even b)

/-- A format with more bits on all sides. -/
structure Finer (g f : Format) : Prop where
  fractionBits_lt : f.fractionBits < g.fractionBits
  exponentBits_le : f.exponentBits ≤ g.exponentBits
  minExponent_lt : g.minExponent < f.minExponent

lemma finer_binary64 : binary64.Finer binary32 := ⟨by decide, by decide, by decide⟩

variable {f g : Format} {q : ℚ} {y z : Nat}

lemma le_infinity_of_grid {c : Nat} (h : f.grid c ≤ f.value f.infinity) : c ≤ f.infinity := by
  rw [value_eq_grid le_rfl] at h
  exact grid_strictMono.le_iff_le.mp h

/-- Every number with few enough digits has a pattern, up to infinity. -/
lemma exists_value_eq {k n : Nat} (hn : n ≤ 2 ^ (f.fractionBits + 1))
    (hle : n * 2 ^ (f.minExponent + k) ≤ f.value f.infinity) :
    ∃ c ≤ f.infinity, f.value c = n * 2 ^ (f.minExponent + k) := by
  -- the significand is shifted until it has its leading bit or its place is the last one
  induction k generalizing n with
  | zero =>
    rw [← grid_eq (Or.inl rfl) hn] at hle ⊢
    exact ⟨_, le_infinity_of_grid hle, value_eq_grid (le_infinity_of_grid hle)⟩
  | succ k ih =>
    by_cases hlead : 2 ^ f.fractionBits ≤ n
    · rw [← grid_eq (Or.inr hlead) hn] at hle ⊢
      exact ⟨_, le_infinity_of_grid hle, value_eq_grid (le_infinity_of_grid hle)⟩
    · have hshift : (n : ℚ) * 2 ^ (f.minExponent + (k + 1 : Nat)) =
          (2 * n : Nat) * 2 ^ (f.minExponent + k) := by
        rw [Nat.cast_succ, ← add_assoc, zpow_add_one₀ (by norm_num)]
        push_cast
        ring
      rw [hshift] at hle ⊢
      exact ih (by rw [pow_succ]; omega) hle

lemma Finer.value_infinity_le (h : g.Finer f) (hf : f.Proper) (hg : g.Proper) :
    f.value f.infinity ≤ g.value g.infinity := by
  rw [hf.value_infinity, hg.value_infinity]
  have hle : f.exponentBits - 1 ≤ g.exponentBits - 1 := Nat.sub_le_sub_right h.exponentBits_le 1
  gcongr <;> norm_num

lemma Finer.nearest_infinity (h : g.Finer f) (hf : f.Proper) (hg : g.Proper) :
    f.Nearest (g.value g.infinity) f.infinity :=
  hf.nearest_infinity (h.value_infinity_le hf hg)

/-- The finer format has the middle of any two neighbours. -/
lemma Finer.exists_middle (h : g.Finer f) (hf : f.Proper) (hg : g.Proper) {b : Nat}
    (hb : b < f.infinity) : ∃ c ≤ g.infinity, 2 * g.value c = f.value b + f.value (b + 1) := by
  obtain ⟨k, n, rfl, hk, hn⟩ := f.exists_place b
  obtain ⟨j, hj⟩ := Int.eq_ofNat_of_zero_le (Int.sub_nonneg.mpr h.minExponent_lt)
  have hb' : k * 2 ^ f.fractionBits + n + 1 ≤ f.infinity := hb
  have hself := value_lt_value (Nat.lt_succ_self _) hb'
  have hnext := (value_le_value hb' le_rfl).trans (h.value_infinity_le hf hg)
  have hsum : f.value (k * 2 ^ f.fractionBits + n) + f.value (k * 2 ^ f.fractionBits + n + 1) =
      2 * ((2 * n + 1 : Nat) * 2 ^ (g.minExponent + (j + k : Nat))) := by
    have hplace : f.minExponent + k = g.minExponent + (j + k : Nat) + 1 := by
      push_cast
      omega
    rw [value_eq_grid hb.le, value_eq_grid hb', Nat.add_assoc, grid_eq hk hn.le,
      grid_eq (hk.imp_right (by omega)) hn, hplace, zpow_add_one₀ (by norm_num)]
    push_cast
    ring
  have hdigits : 2 * n + 1 ≤ 2 ^ (g.fractionBits + 1) := by
    have hpow : 2 ^ (f.fractionBits + 1 + 1) ≤ 2 ^ (g.fractionBits + 1) :=
      Nat.pow_le_pow_right (by norm_num) (Nat.succ_le_succ h.fractionBits_lt)
    rw [pow_succ] at hpow
    omega
  obtain ⟨c, hc, hvalue⟩ := g.exists_value_eq hdigits (by linarith)
  exact ⟨c, hc, by rw [hvalue, hsum]⟩

/-- A number that slips is nearest to the odd neighbour, and the middle to the even one. -/
lemma Slips.not_nearest {w : ℚ} (hslip : f.Slips q w) (hf : f.Proper) (hz : f.Nearest q z) :
    ¬ f.Nearest w z := by
  intro hw
  have hcell := hf.nearest_iff_cell.mp hz
  have hcell' := hf.nearest_iff_cell.mp hw
  obtain ⟨b, hb, hmid, ⟨hlt, hodd⟩ | ⟨hlt, heven⟩⟩ := hslip
  · have hle : z ≤ b := by
      by_contra hgt
      have hnear := (hcell.below b (not_le.mp hgt)).1
      have hnext := f.value_le_value (Nat.succ_le_of_lt (not_le.mp hgt)) hz.le_infinity
      linarith
    have hge : b ≤ z := by
      by_contra hgt
      have hnear := (hcell'.above b hb.le (not_le.mp hgt)).1
      have hnext := value_lt_value (Nat.lt_succ_of_lt (not_le.mp hgt)) hb
      linarith
    obtain rfl : z = b := le_antisymm hle hge
    have heven := (hcell'.above (z + 1) hb (Nat.lt_succ_self z)).2 hmid.symm
    exact Nat.not_even_iff_odd.mpr hodd heven
  · have hge : b + 1 ≤ z := by
      by_contra hgt
      have hnear := (hcell.above (b + 1) hb (not_le.mp hgt)).1
      have hnext := value_le_value (Nat.le_of_lt_succ (not_le.mp hgt)) hb.le
      linarith
    have hle : z ≤ b + 1 := by
      by_contra hgt
      have hnear := (hcell'.below (b + 1) (not_le.mp hgt)).1
      have hnext := value_lt_value (Nat.lt_of_succ_lt (not_le.mp hgt)) hz.le_infinity
      linarith
    obtain rfl : z = b + 1 := le_antisymm hle hge
    have heven' := (hcell'.below b (Nat.lt_succ_self b)).2 hmid
    grind

/-- Rounding through a finer format gives the nearest pattern exactly if the number does not
slip. -/
theorem Finer.nearest_value_iff (h : g.Finer f) (hf : f.Proper) (hg : g.Proper)
    (hy : g.Nearest q y) (hz : f.Nearest q z) :
    f.Nearest (g.value y) z ↔ ¬ f.Slips q (g.value y) := by
  have hcell := hf.nearest_iff_cell.mp hz
  refine ⟨fun hw hslip => hslip.not_nearest hf hz hw, fun hslip => ?_⟩
  -- the finer number does not cross the middles, because they are numbers of its format
  refine hf.nearest_iff_cell.mpr (Cell.of_neighbours hz.le_infinity (fun a ha => ?_) fun hlt => ?_)
  · subst ha
    obtain ⟨c, hc, hmid⟩ := h.exists_middle hf hg hz.le_infinity
    obtain ⟨hge, htie⟩ := hcell.below a (Nat.lt_succ_self a)
    have hcy : g.value c ≤ g.value y :=
      value_le_value (hg.ge_of_ge_value hy hc (by linarith)) hy.le_infinity
    refine ⟨by linarith, fun heq => ?_⟩
    by_contra hodd
    have hne : f.value a + f.value (a + 1) ≠ 2 * q := mt htie hodd
    refine hslip ⟨a, hz.le_infinity, heq, Or.inr ⟨?_, by grind⟩⟩
    exact lt_of_le_of_ne (by linarith) fun heq' => hne (by rw [heq, heq'])
  · obtain ⟨c, hc, hmid⟩ := h.exists_middle hf hg hlt
    obtain ⟨hle, htie⟩ := hcell.above (z + 1) hlt (Nat.lt_succ_self z)
    have hyc : g.value y ≤ g.value c := value_le_value (hg.le_of_le_value hy (by linarith)) hc
    refine ⟨by linarith, fun heq => ?_⟩
    by_contra hodd
    have hne : 2 * q ≠ f.value z + f.value (z + 1) := mt htie hodd
    refine hslip ⟨z, hlt, heq.symm, Or.inl ⟨?_, Nat.not_even_iff_odd.mp hodd⟩⟩
    exact lt_of_le_of_ne (by linarith) fun heq' => hne (by rw [heq', heq])

/-! ### Signs -/

/-- A pattern with its sign. -/
def withSign (f : Format) (negative : Bool) (b : Nat) : Nat :=
  (if negative then f.signWeight else 0) + b

@[simp]
lemma withSign_false (b : Nat) : f.withSign false b = b := Nat.zero_add b

section Sign

variable {negative : Bool} {b : Nat} (hb : b < f.signWeight)

include hb

lemma magnitude_withSign : f.magnitude (f.withSign negative b) = b := by
  cases negative <;> simp [magnitude, withSign, Nat.mod_eq_of_lt hb]

lemma significand_withSign : f.significand (f.withSign negative b) = f.significand b := by
  simp only [significand, exponentField, fractionField, magnitude_withSign hb, magnitude_of_lt hb]

lemma exponent_withSign : f.exponent (f.withSign negative b) = f.exponent b := by
  simp only [exponent, exponentField, magnitude_withSign hb, magnitude_of_lt hb]

lemma isNegative_withSign : f.isNegative (f.withSign negative b) = negative := by
  cases negative <;> simp [isNegative, withSign, hb]

lemma withSign_lt : f.withSign negative b < 2 * f.signWeight := by
  cases negative <;> simp [withSign] <;> omega

end Sign

end Format

lemma Binary64.toNat_withSign (negative : Bool) {b : Nat} (hb : b < Format.binary64.signWeight) :
    (UInt64.ofNat (Format.binary64.withSign negative b)).toNat =
      Format.binary64.withSign negative b := by
  rw [UInt64.toNat_ofNat']
  exact Nat.mod_eq_of_lt (Format.withSign_lt hb)

lemma Binary32.toNat_withSign (negative : Bool) {b : Nat} (hb : b < Format.binary32.signWeight) :
    (UInt32.ofNat (Format.binary32.withSign negative b)).toNat =
      Format.binary32.withSign negative b := by
  rw [UInt32.toNat_ofNat']
  exact Nat.mod_eq_of_lt (Format.withSign_lt hb)

/-- Setting the highest bit is adding its weight. -/
lemma xor_two_pow {n i : Nat} (h : n < 2 ^ i) : n ^^^ 2 ^ i = 2 ^ i + n := by
  have hor := Nat.two_pow_add_eq_or_of_lt h 1
  rw [Nat.mul_one] at hor
  rw [hor]
  apply Nat.eq_of_testBit_eq
  intro j
  rw [Nat.testBit_xor, Nat.testBit_or, Nat.testBit_two_pow]
  by_cases hj : i = j
  · subst hj
    simp [Nat.testBit_lt_two_pow h]
  · simp [hj]

namespace Binary64

open Format

/-- The number with a sign and a magnitude. -/
def ofParts (negative : Bool) (b : Nat) : Binary64 := ⟨.ofNat (binary64.withSign negative b)⟩

lemma neg_ofParts {b : Nat} (hb : b < binary64.signWeight) :
    (ofParts false b).neg = ofParts true b := by
  have hweight : (UInt64.ofNat binary64.signWeight).toNat = 2 ^ 63 := by decide
  refine congrArg Binary64.mk (UInt64.toNat_inj.mp ?_)
  rw [ofParts, UInt64.toNat_xor, toNat_withSign false hb, toNat_withSign true hb, hweight,
    withSign_false]
  exact xor_two_pow (i := 63) hb

lemma isFinite_ofParts (negative : Bool) {b : Nat} (hb : b < binary64.signWeight) :
    (ofParts negative b).isFinite = decide (b < binary64.infinity) := by
  rw [isFinite, Format.isFinite, ofParts, toNat_withSign negative hb, magnitude_withSign hb]

/-- Narrowing rounds to the nearest single-precision number and keeps the sign. -/
lemma exists_narrow (negative : Bool) {b : Nat} (hb : b ≤ binary64.infinity) :
    ∃ z, binary32.Nearest (binary64.value b) z ∧
      (ofParts negative b).narrow = ⟨.ofNat (binary32.withSign negative z)⟩ := by
  have hweight := hb.trans_lt infinity_lt_signWeight
  have hmag : binary64.magnitude (binary64.withSign negative b) = b := magnitude_withSign hweight
  have hbits : (ofParts negative b).bits.toNat = binary64.withSign negative b :=
    toNat_withSign negative hweight
  have hnan : binary64.isNaN (binary64.withSign negative b) = false := by
    rw [isNaN, hmag]
    simpa using hb
  have hsign : (ofParts negative b).isNegative = negative := by
    rw [isNegative, hbits, isNegative_withSign hweight]
  rw [narrow, hbits, hnan, hsign, isFinite_ofParts negative hweight]
  rcases hb.lt_or_eq with hlt | rfl
  · have hround := proper_binary32.nearest_round
      (binary64.significand b * 2 ^ (binary64.exponent b).toNat)
      (Nat.two_pow_pos (-binary64.exponent b).toNat)
    push_cast [mul_div_assoc, ← zpow_eq_div] at hround
    refine ⟨_, hround, ?_⟩
    simp only [hlt, decide_true, Bool.not_true, Bool.false_eq_true, if_false,
      significand_withSign hweight, exponent_withSign hweight]
    rfl
  · refine ⟨_, finer_binary64.nearest_infinity proper_binary32 proper_binary64, ?_⟩
    simp only [lt_irrefl, decide_false, Bool.not_false, Bool.false_eq_true, if_true, if_false]
    rfl

end Binary64

namespace Binary32

open Format

/-- The number with a sign and a magnitude, as a literal is answered: infinity is out of range. -/
def ofParts? (negative : Bool) (b : Nat) : Except Fault Binary32 :=
  if b < binary32.infinity then .ok ⟨.ofNat (binary32.withSign negative b)⟩
  else .error (.outOfRange .f32)

lemma ofParts?_inj {negative : Bool} {a b : Nat} (ha : a ≤ binary32.infinity)
    (hb : b ≤ binary32.infinity) (h : ofParts? negative a = ofParts? negative b) : a = b := by
  unfold ofParts? at h
  split at h <;> split at h
  · have hbits := congrArg (fun x => x.bits.toNat) (Except.ok.inj h)
    simp only [toNat_withSign negative (ha.trans_lt infinity_lt_signWeight),
      toNat_withSign negative (hb.trans_lt infinity_lt_signWeight)] at hbits
    exact Nat.add_left_cancel hbits
  · cases h
  · cases h
  · omega

lemma isFinite_withSign (negative : Bool) {b : Nat} (hb : b < binary32.signWeight) :
    (⟨.ofNat (binary32.withSign negative b)⟩ : Binary32).isFinite =
      decide (b < binary32.infinity) := by
  rw [isFinite, Format.isFinite, toNat_withSign negative hb, magnitude_withSign hb]

end Binary32

open Format Source

lemma Kind.float_eq {k : Kind} {e inner : Expr} {negative : Bool} {d : Decimal}
    (hsigned : signed e = (negative, inner)) (hd : k.decimal inner = .ok d) :
    k.float e = if d.round .binary64 < binary64.infinity
      then .ok (.ofParts negative (d.round .binary64)) else .error (.outOfRange k) := by
  have hweight := (d.nearest_round proper_binary64).le_infinity.trans_lt infinity_lt_signWeight
  have hread : d.toBinary64 = .ofParts false (d.round .binary64) := by
    rw [Decimal.toBinary64, Binary64.ofParts, withSign_false]
  simp only [Kind.float, hsigned, hd, hread, bind, Except.bind, pure, Except.pure,
    Binary64.isFinite_ofParts false hweight, Binary64.neg_ofParts hweight]
  by_cases hfinite : d.round .binary64 < binary64.infinity
  · cases negative <;> simp [hfinite]
  · simp [hfinite]

/-- A literal for single precision is rounded to double precision and then narrowed. -/
lemma Symbol.exists_ofExpr {e inner : Expr} {negative : Bool} {d : Decimal}
    (hsigned : signed e = (negative, inner)) (hd : Kind.decimal .f32 inner = .ok d) :
    ∃ z, binary32.Nearest (binary64.value (d.round .binary64)) z ∧
      Symbol.ofExpr .f32 e = Binary32.ofParts? negative z := by
  have hle := (d.nearest_round proper_binary64).le_infinity
  obtain ⟨z, hz, hnarrow⟩ := Binary64.exists_narrow negative hle
  refine ⟨z, hz, ?_⟩
  have hweight := hz.le_infinity.trans_lt infinity_lt_signWeight
  simp only [Symbol.ofExpr, Kind.float_eq hsigned hd, Binary32.ofParts?]
  by_cases hfinite : d.round .binary64 < binary64.infinity
  · simp only [if_pos hfinite, bind, Except.bind, hnarrow,
      Binary32.isFinite_withSign negative hweight, decide_eq_true_iff, pure, Except.pure]
  · -- numbers beyond double precision are beyond single precision too
    have hround : d.round .binary64 = binary64.infinity := le_antisymm hle (not_lt.mp hfinite)
    have hinfinity : z = binary32.infinity := by
      rw [hround] at hz
      exact proper_binary32.nearest_unique hz
        (finer_binary64.nearest_infinity proper_binary32 proper_binary64)
    simp [hfinite, hinfinity, bind, Except.bind]

lemma Source.Numeral.nearest_round {f : Format} (hf : f.Proper) (n : Numeral) :
    f.Nearest n.value (n.decimal.round f) := by
  rw [← n.value_decimal]
  exact n.decimal.nearest_round hf

/-- A number literal is read as the nearest single-precision number exactly if it does not slip on
the way through double precision. If it does, it is the number nearest to the double-precision one.
In both cases infinity is out of range. -/
theorem Symbol.single_literal_nearest_iff (n : Numeral) :
    ∃ l, Lexer.literal n.chars = some (.literal l, []) ∧
      ∀ e negative, signed e = (negative, .literal l) →
        ∀ y z, binary64.Nearest n.value y → binary32.Nearest n.value z →
          (Symbol.ofExpr .f32 e = Binary32.ofParts? negative z ↔
            ¬ binary32.Slips n.value (binary64.value y)) ∧
          ∃ z', binary32.Nearest (binary64.value y) z' ∧
            Symbol.ofExpr .f32 e = Binary32.ofParts? negative z' := by
  refine ⟨_, literal_chars n, fun e negative hsigned y z hy hz => ?_⟩
  obtain ⟨z', hz', hread⟩ := Symbol.exists_ofExpr hsigned (n.decimal_reading _)
  obtain rfl : n.decimal.round .binary64 = y :=
    proper_binary64.nearest_unique (n.nearest_round proper_binary64) hy
  refine ⟨?_, z', hz', hread⟩
  rw [← finer_binary64.nearest_value_iff proper_binary32 proper_binary64 hy hz, hread]
  constructor
  · intro h
    rwa [← Binary32.ofParts?_inj hz'.le_infinity hz.le_infinity h]
  · intro h
    rw [proper_binary32.nearest_unique hz' h]

/-- The largest finite number and a bit less than half of its last place. -/
def brinkNumeral : Numeral :=
  .plain ⟨'3', "40282356779733661637539395458142568447".toList, by decide, by decide⟩
    (some ⟨'9', [], by decide, by decide⟩) none false

lemma value_brinkNumeral :
    brinkNumeral.value = 3402823567797336616375393954581425684479 * 10 ^ (-1 : Int) := by
  have hdecimal : brinkNumeral.decimal = ⟨3402823567797336616375393954581425684479, -1⟩ := by
    decide
  rw [← brinkNumeral.value_decimal, hdecimal, Decimal.value]
  norm_cast

lemma nearest_brinkNumeral :
    binary64.Nearest brinkNumeral.value 0x47EFFFFFF0000000 ∧
      binary32.Nearest brinkNumeral.value 0x7F7FFFFF := by
  have hdouble : brinkNumeral.decimal.round .binary64 = 0x47EFFFFFF0000000 := by decide
  have hsingle : brinkNumeral.decimal.round .binary32 = 0x7F7FFFFF := by decide
  rw [← hdouble, ← hsingle]
  exact ⟨brinkNumeral.nearest_round proper_binary64, brinkNumeral.nearest_round proper_binary32⟩

lemma slips_brinkNumeral :
    binary32.Slips brinkNumeral.value (binary64.value 0x47EFFFFFF0000000) := by
  have hfinite : binary32.significand 0x7F7FFFFF = 16777215 ∧ binary32.exponent 0x7F7FFFFF = 104 :=
    by decide
  have hinfinity : binary32.significand 0x7F800000 = 8388608 ∧ binary32.exponent 0x7F800000 = 105 :=
    by decide
  have hmiddle : binary64.significand 0x47EFFFFFF0000000 = 9007198986305536 ∧
      binary64.exponent 0x47EFFFFFF0000000 = 75 := by decide
  rw [value_brinkNumeral, value, hmiddle.1, hmiddle.2]
  refine ⟨0x7F7FFFFF, by decide, ?_, Or.inl ⟨by norm_num, by decide⟩⟩
  rw [value, value, hfinite.1, hfinite.2, hinfinity.1, hinfinity.2]
  norm_num

/-- The nearest number is finite, but the literal is not read as it. -/
theorem Symbol.single_literal_nearest_iff_brink :
    ∃ l, Lexer.literal brinkNumeral.chars = some (.literal l, []) ∧
      binary32.Nearest brinkNumeral.value 0x7F7FFFFF ∧
      Symbol.ofExpr .f32 (.negate (.literal l)) ≠ Binary32.ofParts? true 0x7F7FFFFF := by
  obtain ⟨l, hread, h⟩ := Symbol.single_literal_nearest_iff brinkNumeral
  obtain ⟨hdouble, hsingle⟩ := nearest_brinkNumeral
  refine ⟨l, hread, hsingle, fun heq => ?_⟩
  exact (h (.negate (.literal l)) true rfl _ _ hdouble hsingle).1.mp heq slips_brinkNumeral

/-- One, half of its last place, and a bit more. -/
def slippingNumeral : Numeral :=
  .plain ⟨'1', [], by decide, by decide⟩
    (some ⟨'0', "00000059604644775390626".toList, by decide, by decide⟩) none false

lemma value_slippingNumeral :
    slippingNumeral.value = 1000000059604644775390626 * 10 ^ (-24 : Int) := by
  have hdecimal : slippingNumeral.decimal = ⟨1000000059604644775390626, -24⟩ := by decide
  rw [← slippingNumeral.value_decimal, hdecimal, Decimal.value]
  norm_cast

/-- The nearest number is the successor of one, but the literal is read as one. -/
theorem Symbol.single_literal_slips :
    ∃ l, Lexer.literal "1.000000059604644775390626".toList = some (.literal l, []) ∧
      binary32.Nearest (1000000059604644775390626 * 10 ^ (-24 : Int)) 0x3F800001 ∧
      Symbol.ofExpr .f32 (.literal l) = .ok ⟨0x3F800000⟩ := by
  have hchars : slippingNumeral.chars = "1.000000059604644775390626".toList := by decide
  have hround : slippingNumeral.decimal.round .binary32 = 0x3F800001 := by decide
  rw [← hchars, ← value_slippingNumeral, ← hround]
  exact ⟨_, literal_chars slippingNumeral, slippingNumeral.nearest_round proper_binary32,
    by decide⟩

end StateMachine
