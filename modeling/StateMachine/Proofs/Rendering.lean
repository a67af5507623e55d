import StateMachine.Proofs.Legible
import StateMachine.Proofs.Numeral
import StateMachine.Proofs.Shortest

/-!
# Texts of floating-point numbers

The text of a floating-point number can be read back. It has the form of a number with a point or
an exponent, so it stands for one number only, and this number is rounded to the pattern that the
text was made for. Where the text ends can be seen as well, though a point is a separator: a text
without a point has a letter before the next separator, and one with a point has none before it.
-/

namespace StateMachine

/-! ### Texts of decimals -/

namespace Source

open Text

lemma Lexer.isSeparator_of_isDigitOrGap {c : Char} (hc : isDigitOrGap c) :
    isSeparator c = false ∧ ¬ c.isAlpha := by
  rcases Bool.or_eq_true_iff.mp hc with hc | hc
  · exact forall_digit (p := fun c => isSeparator c = false ∧ ¬ c.isAlpha) (by decide) hc
  · rw [of_decide_eq_true hc]
    decide

lemma Digits.isSeparator_of_mem_chars {d : Digits} {c : Char} (hc : c ∈ d.chars) :
    isSeparator c = false ∧ ¬ c.isAlpha :=
  Lexer.isSeparator_of_isDigitOrGap (List.all_eq_true.mp d.all_chars c hc)

lemma Exponent.isSeparator_of_mem_chars {x : Exponent} {c : Char} (hc : c ∈ x.chars) :
    isSeparator c = false := by
  rcases List.mem_cons.mp hc with rfl | hc
  · rcases x.isLetter with h | h <;> rw [h] <;> decide
  · rcases List.mem_append.mp hc with hc | hc
    · have hlead : c = '+' ∨ c = '-' ∨ c = '_' := of_decide_eq_true (x.isLead_of_mem_lead hc)
      rcases hlead with rfl | rfl | rfl <;> decide
    · exact (Digits.isSeparator_of_mem_chars hc).1

/-- A number with a point or an exponent, and with a sign or without one. -/
lemma Numeral.pointed_chars {sign : List Char} (hsign : sign = [] ∨ sign = ['-']) (w : Digits)
    {r : Option Digits} {x : Option Exponent} (h : r.isSome ∨ x.isSome) :
    Pointed (sign ++ (plain w r x false).chars) := by
  have hsign' : ∀ c ∈ sign, isSeparator c = false ∧ ¬ c.isAlpha := by
    rcases hsign with rfl | rfl
    · simp
    · rw [List.forall_mem_singleton]
      decide
  have hfront : ∀ c ∈ sign ++ w.chars, isSeparator c = false ∧ ¬ c.isAlpha := by
    intro c hc
    exact (List.mem_append.mp hc).elim (hsign' c) Digits.isSeparator_of_mem_chars
  have hexponent : ∀ c ∈ exponentChars x, isSeparator c = false := by
    intro c hc
    cases x with
    | none => cases hc
    | some x => exact Exponent.isSeparator_of_mem_chars hc
  cases r with
  | some r =>
    have htext : sign ++ (plain w (some r) x false).chars
        = (sign ++ w.chars) ++ '.' :: (r.chars ++ exponentChars x) := by
      simp [chars, fractionChars, suffixChars]
    rw [htext]
    refine .point (by simp [Digits.chars]) hfront fun c hc => ?_
    exact (List.mem_append.mp hc).elim (fun hc => (Digits.isSeparator_of_mem_chars hc).1)
      (hexponent c)
  | none =>
    obtain ⟨x, rfl⟩ := Option.isSome_iff_exists.mp (h.resolve_left (by simp))
    have htext : sign ++ (plain w none (some x) false).chars = (sign ++ w.chars) ++ x.chars := by
      simp [chars, fractionChars, exponentChars, suffixChars]
    rw [htext]
    refine .word (fun c hc => ?_) ⟨x.letter, by simp [Exponent.chars], ?_⟩
    · exact (List.mem_append.mp hc).elim (fun hc => (hfront c hc).1) (hexponent c)
    · rcases x.isLetter with h | h <;> rw [h] <;> decide

/-- An integer is an exponent. -/
lemma exists_exponent (n : Int) :
    ∃ x : Exponent, x.chars = 'e' :: (toString n).toList ∧ x.value = n := by
  obtain ⟨d, hchars, hvalue⟩ := exists_digits n.natAbs
  refine ⟨⟨'e', if 0 ≤ n then none else some true, 0, d, Or.inl rfl⟩, ?_, ?_⟩
  · rw [Exponent.chars, Exponent.lead, Text.toList_toString_int, hchars]
    split_ifs <;> simp [Exponent.signChars]
  · rw [Exponent.value, hvalue]
    by_cases hn : 0 ≤ n
    · rw [if_pos hn, if_neg (by simp)]
      exact Int.natAbs_of_nonneg hn
    · rw [if_neg hn, if_pos rfl]
      omega

end Source

namespace Format

variable {f : Format}

/-- A pattern is its sign and its magnitude. -/
lemma eq_of_parts {b c : Nat} (hb : b < 2 * f.signWeight) (hc : c < 2 * f.signWeight)
    (hsign : f.isNegative b = f.isNegative c) (hmag : f.magnitude b = f.magnitude c) : b = c := by
  have hmod : ∀ {a : Nat}, a < 2 * f.signWeight → f.signWeight ≤ a →
      f.magnitude a = a - f.signWeight := by
    intro a hlt hle
    rw [magnitude, Nat.mod_eq_sub_mod hle, Nat.mod_eq_of_lt (by omega)]
  rcases Nat.lt_or_ge b f.signWeight with hlt | hge
  · have hlt' : c < f.signWeight := by
      simpa [isNegative, Nat.not_le.mpr hlt] using hsign
    rwa [magnitude_of_lt hlt, magnitude_of_lt hlt'] at hmag
  · have hge' : f.signWeight ≤ c := by
      simpa [isNegative, hge] using hsign
    rw [hmod hb hge, hmod hc hge'] at hmag
    omega

end Format

namespace DecimalLayout

open Source

variable (d : Decimal)

lemma isDigit_of_mem_digitChars {c : Char} (hc : c ∈ digitChars d) : c.isDigit :=
  Nat.isDigit_of_mem_toDigits (by decide) (by decide) hc

/-- Zeros behind digits. -/
lemma ofDigitChars_zeros (n m : Nat) :
    Nat.ofDigitChars 10 (List.replicate n '0') m = m * 10 ^ n := by
  induction n generalizing m with
  | zero => simp
  | succ n ih =>
    have hzero : '0'.toNat - '0'.toNat = 0 := rfl
    rw [List.replicate_succ, Nat.ofDigitChars_cons, ih, hzero, Nat.add_zero, pow_succ]
    ring

/-- Digits before and behind a point. -/
lemma exists_pointed (whole rest : List Char) (hwhole : whole ≠ []) (hrest : rest ≠ [])
    (hdigits : ∀ c ∈ whole ++ rest, c.isDigit) :
    ∃ w r : Digits, whole ++ '.' :: rest = w.chars ++ '.' :: r.chars ∧
      (w.value : ℚ) + Numeral.fractionValue (some r) =
        Nat.ofDigitChars 10 (whole ++ rest) 0 * 10 ^ (-(rest.length : Int)) := by
  obtain ⟨w, hw, hw'⟩ := Digits.exists_chars hwhole fun c hc => hdigits c (by simp [hc])
  obtain ⟨r, hr, hr'⟩ := Digits.exists_chars hrest fun c hc => hdigits c (by simp [hc])
  refine ⟨w, r, by rw [hw, hr], ?_⟩
  rw [Nat.ofDigitChars_append, Nat.ofDigitChars_eq_ofDigitChars_zero, Numeral.fractionValue,
    Digits.value, Digits.value, hw', hr', zpow_neg, zpow_natCast]
  push_cast
  field_simp

/-- Zeros around the digits of a decimal keep its value, if the point is put where they say. -/
lemma exists_padded (whole rest : List Char) (k : Nat) (hwhole : whole ≠ []) (hrest : rest ≠ [])
    (hdigits : ∀ c ∈ whole ++ rest, c.isDigit)
    (hvalue : Nat.ofDigitChars 10 (whole ++ rest) 0 = d.digits * 10 ^ k)
    (hplace : (k : Int) - rest.length = d.exponent) :
    ∃ w r : Digits, whole ++ '.' :: rest = w.chars ++ '.' :: r.chars ∧
      (w.value : ℚ) + Numeral.fractionValue (some r) = d.value := by
  obtain ⟨w, r, hchars, hsum⟩ := exists_pointed whole rest hwhole hrest hdigits
  refine ⟨w, r, hchars, ?_⟩
  rw [hsum, hvalue, Decimal.value, ← hplace, sub_eq_add_neg, zpow_add₀ (by norm_num),
    zpow_natCast]
  push_cast
  ring

/-- Where the digits of a decimal are put, its value stays. -/
lemma exists_positional :
    ∃ w r : Digits, positionalForm d = w.chars ++ '.' :: r.chars ∧
      (w.value : ℚ) + Numeral.fractionValue (some r) = d.value := by
  have hne : digitChars d ≠ [] := Nat.toDigits_ne_nil
  have hpos := List.length_pos_iff.mpr hne
  have hdigit := fun c => isDigit_of_mem_digitChars d (c := c)
  have hvalue : Nat.ofDigitChars 10 (digitChars d) 0 = d.digits := Nat.ofDigitChars_ten_toDigits
  have hexponent : scientificExponent d = d.exponent + (digitChars d).length - 1 := rfl
  rw [positionalForm]
  dsimp only
  generalize digitChars d = ds at *
  split_ifs with he hdrop
  · -- all digits stand behind the point
    refine exists_padded d ['0'] (List.replicate (-scientificExponent d - 1).toNat '0' ++ ds) 0
      (by simp) (by simp [hne]) (by simpa [or_imp, forall_and] using hdigit) ?_ ?_
    · have hwhole : Nat.ofDigitChars 10 ['0'] 0 = 0 := rfl
      rw [Nat.ofDigitChars_append, Nat.ofDigitChars_append, ofDigitChars_zeros, hwhole,
        Nat.zero_mul, hvalue, pow_zero, Nat.mul_one]
    · rw [List.length_append, List.length_replicate]
      omega
  · -- all digits stand before the point
    have hle : ds.length ≤ (scientificExponent d).toNat + 1 := by simpa using hdrop
    rw [List.take_of_length_le hle]
    refine exists_padded d
      (ds ++ List.replicate ((scientificExponent d).toNat + 1 - ds.length) '0') ['0']
      ((scientificExponent d).toNat + 1 - ds.length + 1) (by simp [hne]) (by simp)
      (by simpa [or_imp, forall_and] using hdigit) ?_ ?_
    · have hlast (m : Nat) : Nat.ofDigitChars 10 ['0'] m = m * 10 := ofDigitChars_zeros 1 m
      rw [Nat.ofDigitChars_append, Nat.ofDigitChars_append, ofDigitChars_zeros, hvalue, hlast,
        pow_succ, Nat.mul_assoc]
    · rw [List.length_singleton]
      omega
  · have hlt : (scientificExponent d).toNat + 1 < ds.length := by simpa using hdrop
    rw [Nat.sub_eq_zero_of_le hlt.le, List.replicate_zero, List.append_nil]
    refine exists_padded d (ds.take ((scientificExponent d).toNat + 1))
      (ds.drop ((scientificExponent d).toNat + 1)) 0 (by simp [hne]) (by simpa using hdrop)
      (by simpa using hdigit) ?_ ?_
    · rw [List.take_append_drop, hvalue, pow_zero, Nat.mul_one]
    · rw [List.length_drop]
      omega

lemma exists_exponential :
    ∃ w r x, exponentForm d = (Numeral.plain w r (some x) false).chars ∧
      (Numeral.plain w r (some x) false).value = d.value := by
  have hne : digitChars d ≠ [] := Nat.toDigits_ne_nil
  have hdigit := fun c => isDigit_of_mem_digitChars d (c := c)
  have hvalue : Nat.ofDigitChars 10 (digitChars d) 0 = d.digits := Nat.ofDigitChars_ten_toDigits
  have hexponent : scientificExponent d = d.exponent + (digitChars d).length - 1 := rfl
  obtain ⟨x, hx, hx'⟩ := exists_exponent (scientificExponent d)
  rw [exponentForm]
  rcases hds : digitChars d with _ | ⟨c, _ | ⟨c', rest⟩⟩
  · exact absurd hds hne
  · obtain ⟨w, hw, hw'⟩ := Digits.exists_chars hne hdigit
    refine ⟨w, none, x, ?_, ?_⟩
    · simp [Numeral.chars, Numeral.fractionChars, Numeral.exponentChars, Numeral.suffixChars, hw,
        hx, hds]
    · rw [hds] at hexponent
      simp [Numeral.value, Numeral.fractionValue, Digits.value, hw', hvalue, hx', hexponent,
        Decimal.value]
  · rw [hds] at hdigit hvalue hexponent
    obtain ⟨w, r, hchars, hsum⟩ := exists_pointed [c] (c' :: rest) (by simp)
      (by simp) (by simpa using hdigit)
    refine ⟨w, some r, x, ?_, ?_⟩
    · have htext := congrArg (· ++ 'e' :: (toString (scientificExponent d)).toList) hchars
      simpa [Numeral.chars, Numeral.fractionChars, Numeral.exponentChars, Numeral.suffixChars, hx]
        using htext
    · rw [Numeral.value, hsum, Option.elim_some, hx', List.singleton_append, hvalue, mul_assoc,
        ← zpow_add₀ (by norm_num), Decimal.value]
      congr 2
      simp only [List.length_cons] at hexponent ⊢
      omega

/-- The text of a decimal is that of a number with a point or an exponent, and with its value. -/
lemma exists_numeral (l : DecimalLayout) :
    ∃ w r x, (r.isSome ∨ x.isSome) ∧ l.decimalText d = (Numeral.plain w r x false).chars ∧
      (Numeral.plain w r x false).value = d.value := by
  rw [decimalText]
  split_ifs
  · obtain ⟨w, r, hchars, hvalue⟩ := exists_positional d
    refine ⟨w, some r, none, Or.inl rfl, ?_, ?_⟩
    · simpa [Numeral.chars, Numeral.fractionChars, Numeral.exponentChars, Numeral.suffixChars]
        using hchars
    · simpa [Numeral.value] using hvalue
  · obtain ⟨w, r, x, hchars, hvalue⟩ := exists_exponential d
    exact ⟨w, r, some x, Or.inr rfl, hchars, hvalue⟩

/-! ### Texts of patterns -/

open Text

variable {f : Format}

/-- The sign before a number. -/
def signChars (negative : Bool) : List Char := if negative then ['-'] else []

lemma signChars_append_inj {s t : Bool} {u v : List Char} (hu : u.head? ≠ some '-')
    (hv : v.head? ≠ some '-') (h : signChars s ++ u = signChars t ++ v) : s = t ∧ u = v := by
  cases s <;> cases t
  · exact ⟨rfl, h⟩
  · exact absurd (congrArg List.head? h) hu
  · exact absurd (congrArg List.head? h).symm hv
  · exact ⟨rfl, List.tail_eq_of_cons_eq h⟩

/-- The sign of a pattern plays no part in its decimal. -/
lemma decimal_magnitude (f : Format) (bits : Nat) :
    Shortest.decimal f (f.magnitude bits) = Shortest.decimal f bits := by
  have hmag : f.magnitude (f.magnitude bits) = f.magnitude bits := Nat.mod_mod _ _
  have hfield : f.exponentField (f.magnitude bits) = f.exponentField bits := by
    rw [Format.exponentField, hmag, Format.exponentField]
  have hfraction : f.fractionField (f.magnitude bits) = f.fractionField bits := by
    rw [Format.fractionField, hmag, Format.fractionField]
  have hsignificand : f.significand (f.magnitude bits) = f.significand bits := by
    rw [Format.significand, hfield, hfraction, Format.significand]
  have hexponent : f.exponent (f.magnitude bits) = f.exponent bits := by
    rw [Format.exponent, hfield, Format.exponent]
  rw [Shortest.decimal, Shortest.startGrid, Shortest.Interval.of, hfield, hfraction, hsignificand,
    hexponent]
  rfl

/-- What may be shown for an unsigned pattern: the word for infinity, or a number that is rounded to
the pattern. -/
inductive Shows (f : Format) : List Char → Nat → Prop
  | infinity : Shows f ['i', 'n', 'f'] f.infinity
  | number {w : Digits} {r : Option Digits} {x : Option Exponent} {b : Nat}
      (hsome : r.isSome ∨ x.isSome) (hnearest : f.Nearest (Numeral.plain w r x false).value b) :
      Shows f (Numeral.plain w r x false).chars b

lemma Shows.head?_ne {u : List Char} {b : Nat} (h : Shows f u b) :
    u.head? ≠ some '-' ∧ u.head? ≠ some 'N' := by
  cases h with
  | infinity => decide
  | @number w =>
    exact Lexer.forall_digit (p := fun c => some c ≠ some '-' ∧ some c ≠ some 'N') (by decide)
      w.isDigit_first

lemma Shows.unique (hf : f.Proper) {u : List Char} {b c : Nat} (hb : Shows f u b)
    (hc : Shows f u c) : b = c := by
  have hword : ∀ n : Numeral, n.chars ≠ ['i', 'n', 'f'] := by
    intro n hn
    have hhead := head_chars n
    rw [hn] at hhead
    contradiction
  generalize hu : u = v at hc
  cases hb with
  | infinity =>
    cases hc with
    | infinity => rfl
    | number => exact absurd hu.symm (hword _)
  | number _ hnearest =>
    cases hc with
    | infinity => exact absurd hu (hword _)
    | number _ hnearest' =>
      rw [Numeral.value_eq_of_chars_eq hu] at hnearest
      exact hf.nearest_unique hnearest hnearest'

/-- The text of a pattern that is no NaN has its sign and shows its magnitude. -/
lemma exists_shows (hf : f.Proper) (hf' : f.Bounded) {bits : Nat} (hnan : f.isNaN bits = false) :
    ∃ u, (debug.text f bits).toList = signChars (f.isNegative bits) ++ u ∧
      Shows f u (f.magnitude bits) := by
  have hsign : (if f.isNegative bits then "-" else "").toList = signChars (f.isNegative bits) := by
    cases f.isNegative bits <;> rfl
  cases hfinite : f.isFinite bits with
  | false =>
    have hle : ¬ f.infinity < f.magnitude bits := of_decide_eq_false hnan
    have hge : ¬ f.magnitude bits < f.infinity := of_decide_eq_false hfinite
    refine ⟨['i', 'n', 'f'], by simp [text, hnan, hfinite, hsign], ?_⟩
    rw [Nat.le_antisymm (Nat.not_lt.mp hle) (Nat.not_lt.mp hge)]
    exact .infinity
  | true =>
    have hlt : f.magnitude bits < f.infinity := of_decide_eq_true hfinite
    obtain ⟨w, r, x, hsome, hchars, hvalue⟩ :=
      exists_numeral (Shortest.decimalOrZero f (f.magnitude bits)) debug
    refine ⟨_, ?_, .number hsome (hvalue ▸ Shortest.nearest_decimalOrZero hf hf' hlt)⟩
    rw [← hchars, Shortest.decimalOrZero, decimal_magnitude,
      Format.magnitude_of_lt (hlt.trans Format.infinity_lt_signWeight)]
    by_cases hzero : f.magnitude bits = 0
    · have htext : debug.decimalText ⟨0, 0⟩ = ['0', '.', '0'] := by decide
      simp [text, hnan, hfinite, hsign, hzero, htext]
    · simp [text, hnan, hfinite, hsign, hzero]

lemma text_of_isNaN (l : DecimalLayout) {bits : Nat} (h : f.isNaN bits = true) :
    l.text f bits = "NaN" := by
  simp [text, h]

lemma pointed_text (hf : f.Proper) (hf' : f.Bounded) (bits : Nat) :
    Pointed (debug.text f bits).toList := by
  cases hnan : f.isNaN bits with
  | true =>
    rw [text_of_isNaN debug hnan]
    exact .of_all (by decide) (by decide)
  | false =>
    obtain ⟨u, htext, hu⟩ := exists_shows hf hf' hnan
    rw [htext]
    have hsign : signChars (f.isNegative bits) = [] ∨ signChars (f.isNegative bits) = ['-'] := by
      cases f.isNegative bits
      · exact Or.inl rfl
      · exact Or.inr rfl
    generalize f.magnitude bits = b at hu
    cases hu with
    | infinity => rcases hsign with h | h <;> rw [h] <;> exact .of_all (by decide) (by decide)
    | number hsome _ => exact Numeral.pointed_chars hsign _ hsome

/-- Patterns that are shown alike are equal, or both are NaNs. -/
lemma canonical_eq_of_text_eq (hf : f.Proper) (hf' : f.Bounded) {b c : Nat}
    (hb : b < 2 * f.signWeight) (hc : c < 2 * f.signWeight)
    (h : debug.text f b = debug.text f c) : f.canonical b = f.canonical c := by
  have hword : ∀ {bits : Nat}, f.isNaN bits = false → debug.text f bits ≠ "NaN" := by
    intro bits hnan heq
    obtain ⟨u, htext, hu⟩ := exists_shows hf hf' hnan
    rw [heq] at htext
    obtain ⟨-, rfl⟩ := signChars_append_inj (s := false) (by decide) hu.head?_ne.1 htext
    exact hu.head?_ne.2 rfl
  cases hnan : f.isNaN b with
  | true =>
    rw [text_of_isNaN debug hnan] at h
    cases hnan' : f.isNaN c with
    | true => rw [Format.canonical, Format.canonical, if_pos hnan, if_pos hnan']
    | false => exact absurd h.symm (hword hnan')
  | false =>
    cases hnan' : f.isNaN c with
    | true =>
      rw [text_of_isNaN debug hnan'] at h
      exact absurd h (hword hnan)
    | false =>
      obtain ⟨u, hu, hshows⟩ := exists_shows hf hf' hnan
      obtain ⟨v, hv, hshows'⟩ := exists_shows hf hf' hnan'
      rw [h, hv] at hu
      obtain ⟨hsign, rfl⟩ := signChars_append_inj hshows'.head?_ne.1 hshows.head?_ne.1 hu
      rw [Format.canonical, Format.canonical, hnan, hnan',
        Format.eq_of_parts hb hc hsign.symm (hshows.unique hf hshows')]

end DecimalLayout

end StateMachine
