import Mathlib.Tactic.IntervalCases
import StateMachine.Declaration.Literal
import StateMachine.Proofs.Rounding

/-!
# Decimal numbers as they are written

A decimal number is written with digits, a fraction behind a point, an exponent and a suffix, and
gaps are allowed between digits. Such a text stands for a rational number, and the lexer reads it
as one literal whose decimal has this value.
-/

namespace StateMachine.Source

/-! ### Written numbers -/

/-- A digit, and more digits with gaps between them. -/
structure Digits where
  first : Char
  rest : List Char
  isDigit_first : first.isDigit
  isDigitOrGap_rest : rest.all Lexer.isDigitOrGap

namespace Digits

def chars (d : Digits) : List Char := d.first :: d.rest

/-- The digits without the gaps. -/
def digits (d : Digits) : List Char := d.chars.filter Char.isDigit

def value (d : Digits) : Nat := Nat.ofDigitChars 10 d.digits 0

end Digits

/-- A letter, a sign, and digits that may have gaps before them too. -/
structure Exponent where
  letter : Char
  /-- Whether the sign is a minus, if there is one. -/
  sign : Option Bool
  gaps : Nat
  digits : Digits
  isLetter : letter = 'e' ∨ letter = 'E'

namespace Exponent

def signChars : Option Bool → List Char
  | none => []
  | some false => ['+']
  | some true => ['-']

/-- The characters before the first digit. -/
def lead (x : Exponent) : List Char := signChars x.sign ++ List.replicate x.gaps '_'

def chars (x : Exponent) : List Char := x.letter :: (x.lead ++ x.digits.chars)

def value (x : Exponent) : Int :=
  if x.sign = some true then -x.digits.value else x.digits.value

end Exponent

/-- A decimal number as it is written. -/
inductive Numeral
  /-- Digits and a point with nothing behind it. -/
  | pointed (whole : Digits)
  /-- Digits, a fraction, an exponent, and the suffix for single precision. -/
  | plain (whole : Digits) (fraction : Option Digits) (exponent : Option Exponent)
      (suffixed : Bool)

namespace Numeral

def suffixChars (suffixed : Bool) : List Char := if suffixed then ['f', '3', '2'] else []

def fractionChars : Option Digits → List Char
  | none => []
  | some d => '.' :: d.chars

def exponentChars : Option Exponent → List Char
  | none => []
  | some x => x.chars

/-- The text of a number. -/
def chars : Numeral → List Char
  | pointed whole => whole.chars ++ ['.']
  | plain whole fraction exponent suffixed =>
    whole.chars ++ (fractionChars fraction ++ (exponentChars exponent ++ suffixChars suffixed))

/-- The number that digits behind a point stand for. -/
def fractionValue : Option Digits → ℚ
  | none => 0
  | some d => d.value / 10 ^ d.digits.length

/-- The number that a text stands for. -/
def value : Numeral → ℚ
  | pointed whole => whole.value
  | plain whole fraction exponent _ =>
    (whole.value + fractionValue fraction) * 10 ^ (exponent.elim 0 Exponent.value)

end Numeral

/-! ### Digits -/

namespace Lexer

lemma forall_digit {p : Char → Prop} (h : ∀ n < 58, 48 ≤ n → p (Char.ofNat n)) {c : Char}
    (hc : c.isDigit) : p c := by
  obtain ⟨hlow, hhigh⟩ := Char.isDigit_iff_toNat.mp hc
  have hp := h c.toNat (Nat.lt_succ_of_le hhigh) hlow
  rwa [Char.ofNat_toNat] at hp

lemma exists_hexDigit {c : Char} (hc : c.isDigit) :
    ∃ d < 10, hexDigit c = some d ∧ c.toNat - '0'.toNat = d :=
  forall_digit (p := fun c => ∃ d < 10, hexDigit c = some d ∧ c.toNat - '0'.toNat = d)
    (by decide) hc

lemma quoted_of_isDigit {c : Char} (hc : c.isDigit) (cs : List Char) : quoted (c :: cs) = none := by
  revert cs
  refine forall_digit (p := fun c => ∀ cs, quoted (c :: cs) = none) (fun n hlt hle cs => ?_) hc
  interval_cases n <;> rfl

lemma decimalValue_eq (cs : List Char) :
    decimalValue cs = Nat.ofDigitChars 10 (cs.filter Char.isDigit) 0 := by
  simp only [decimalValue, Nat.ofDigitChars_eq_foldl, Nat.mul_comm 10]

/-- Whether the characters ahead do not go on with digits. -/
def endsDigits (cs : List Char) : Bool := cs.head?.all fun c => !isDigitOrGap c

lemma takeWhile_digits {ds rest : List Char} (hds : ds.all isDigitOrGap)
    (hrest : endsDigits rest) :
    (ds ++ rest).takeWhile isDigitOrGap = ds ∧ (ds ++ rest).dropWhile isDigitOrGap = rest := by
  rw [List.takeWhile_append_of_pos (by simpa using hds),
    List.dropWhile_append_of_pos (by simpa using hds)]
  cases rest with
  | nil => simp
  | cons c rest => simp_all [endsDigits]

lemma isDigit_of_hexDigit {c : Char} {d : Nat} (h : hexDigit c = some d) (hd : d < 10) :
    c.isDigit := by
  unfold hexDigit at h
  split_ifs at h with hdigit hlower hupper
  · simpa [Char.isDigit, Char.le_def, UInt32.le_iff_toNat_le] using hdigit
  · simp only [Option.some.injEq] at h
    omega
  · simp only [Option.some.injEq] at h
    omega

lemma integerDigits_append {ds rest : List Char} (hds : ds.all isDigitOrGap)
    (hrest : endsDigits rest) (n : Nat) :
    integerDigits 10 n false (ds ++ rest) =
      some (Nat.ofDigitChars 10 (ds.filter Char.isDigit) n, rest) := by
  induction ds generalizing n with
  | nil =>
    cases rest with
    | nil => rfl
    | cons c rest =>
      have hc : ¬ c.isDigit ∧ c ≠ '_' := by simpa [endsDigits, isDigitOrGap] using hrest
      have hgap := hc.2
      rcases hhex : hexDigit c with _ | d
      · simp [integerDigits, hhex]
      · have hd : ¬ d < 10 := fun hd => hc.1 (isDigit_of_hexDigit hhex hd)
        simp [integerDigits, hhex, hd, hc.1]
  | cons c ds ih =>
    simp only [List.all_cons, Bool.and_eq_true] at hds
    by_cases hc : c.isDigit
    · obtain ⟨d, hd, hhex, hvalue⟩ := exists_hexDigit hc
      have hgap : c ≠ '_' := by
        rintro rfl
        contradiction
      rw [List.filter_cons_of_pos hc, Nat.ofDigitChars_cons, Nat.mul_comm 10, hvalue, ← ih hds.2]
      simp [integerDigits, hhex, hd]
    · obtain rfl : c = '_' := by simpa [isDigitOrGap, hc] using hds.1
      rw [List.filter_cons_of_neg hc, ← ih hds.2]
      simp [integerDigits]

/-- Whether characters are the suffix of an integer: they go on neither with digits, a fraction or
an exponent nor with the letter of a base. -/
def isIntegerSuffix (cs : List Char) : Bool :=
  (cs.head?.all fun c => !isDigitOrGap c && c ∉ ['.', 'e', 'E', 'x', 'o', 'b']) &&
    suffix cs == (cs, [])

lemma endsDigits_of_isIntegerSuffix {cs : List Char} (h : isIntegerSuffix cs) : endsDigits cs := by
  cases cs with
  | nil => rfl
  | cons c cs => simp_all [isIntegerSuffix, endsDigits]

end Lexer

lemma Digits.all_chars (d : Digits) : d.chars.all Lexer.isDigitOrGap := by
  simp [chars, Lexer.isDigitOrGap, d.isDigit_first, d.isDigitOrGap_rest]

lemma Digits.decimalValue_chars (d : Digits) : Lexer.decimalValue d.chars = d.value :=
  Lexer.decimalValue_eq d.chars

/-- Digits without gaps. -/
lemma Digits.exists_chars {cs : List Char} (hne : cs ≠ []) (hcs : ∀ c ∈ cs, c.isDigit) :
    ∃ d : Digits, d.chars = cs ∧ d.digits = cs := by
  obtain ⟨c, rest, rfl⟩ := List.exists_cons_of_ne_nil hne
  refine ⟨⟨c, rest, hcs c (by simp), ?_⟩, rfl, List.filter_eq_self.mpr hcs⟩
  rw [List.all_eq_true]
  intro d hd
  simp [Lexer.isDigitOrGap, hcs d (by simp [hd])]

lemma exists_digits (n : Nat) : ∃ d : Digits, d.chars = Nat.toDigits 10 n ∧ d.value = n := by
  have hne : Nat.toDigits 10 n ≠ [] := Nat.toDigits_ne_nil
  obtain ⟨d, hchars, hdigits⟩ := Digits.exists_chars hne fun c hc =>
    Nat.isDigit_of_mem_toDigits (by decide) (by decide) hc
  refine ⟨d, hchars, ?_⟩
  rw [Digits.value, hdigits, Nat.ofDigitChars_ten_toDigits]

/-! ### Reading -/

open Lexer Numeral

lemma suffix_suffixChars (s : Bool) : suffix (suffixChars s) = (suffixChars s, []) := by
  cases s <;> decide

/-- Whether a character may stand before the digits of an exponent. -/
def Lexer.isLead (c : Char) : Bool := c = '+' ∨ c = '-' ∨ c = '_'

lemma Lexer.isLead_eq : isLead = fun c => decide (c = '+' ∨ c = '-' ∨ c = '_') := rfl

namespace Exponent

variable (x : Exponent)

lemma isLead_of_mem_lead {c : Char} (hc : c ∈ x.lead) : isLead c := by
  rcases List.mem_append.mp hc with hc | hc
  · rcases hsign : x.sign with _ | _ | _ <;> simp_all [signChars, isLead]
  · rw [List.eq_of_mem_replicate hc]
    decide

lemma filter_lead : x.lead.filter (· ≠ '_') = signChars x.sign := by
  rcases hsign : x.sign with _ | _ | _ <;> simp [lead, hsign, signChars]

lemma exponentPart_chars (s : Bool) :
    exponentPart (x.lead ++ (x.digits.chars ++ suffixChars s)) = some (x.value, suffixChars s) := by
  have hfirst : isLead x.digits.first = false :=
    forall_digit (p := fun c => isLead c = false) (by decide) x.digits.isDigit_first
  obtain ⟨htake, hdrop⟩ : _ ∧ _ :=
    takeWhile_digits x.digits.all_chars (by cases s <;> decide : endsDigits (suffixChars s))
  have hlead : (x.lead ++ (x.digits.chars ++ suffixChars s)).takeWhile isLead = x.lead := by
    rw [List.takeWhile_append_of_pos fun c hc => x.isLead_of_mem_lead hc]
    simp [Digits.chars, hfirst]
  have hrest : (x.lead ++ (x.digits.chars ++ suffixChars s)).dropWhile isLead =
      x.digits.chars ++ suffixChars s := by
    rw [List.dropWhile_append_of_pos fun c hc => x.isLead_of_mem_lead hc]
    simp [Digits.chars, hfirst]
  have hsigns : ¬ 1 < (signChars x.sign).length := by
    rcases x.sign with _ | _ | _ <;> decide
  have hminus : signChars x.sign = ['-'] ↔ x.sign = some true := by
    rcases x.sign with _ | _ | _ <;> decide
  have hvalue : (if signChars x.sign = ['-'] then -(x.digits.value : Int) else x.digits.value) =
      x.value := by
    simp only [hminus, value]
  rw [exponentPart, ← isLead_eq]
  simp only [hlead, hrest, htake, hdrop, x.filter_lead, hsigns, x.digits.decimalValue_chars, hvalue]
  rfl

end Exponent

lemma endsDigits_tail (e : Option Exponent) (s : Bool) :
    endsDigits (exponentChars e ++ suffixChars s) := by
  rcases e with _ | x
  · cases s <;> decide
  · rcases x.isLetter with h | h <;> simp [exponentChars, Exponent.chars, h, endsDigits] <;> decide

lemma fractionPart_chars (d : Digits) {rest : List Char} (hrest : endsDigits rest) :
    fractionPart (d.chars ++ rest) = some (d.chars, rest) := by
  have hfirst : ¬ (d.first = '.' ∨ Text.isIdentStart d.first) :=
    forall_digit (p := fun c => ¬ (c = '.' ∨ Text.isIdentStart c)) (by decide) d.isDigit_first
  obtain ⟨htake, hdrop⟩ := takeWhile_digits d.all_chars hrest
  rw [Digits.chars, List.cons_append] at htake hdrop ⊢
  simp only [fractionPart, if_neg hfirst, htake, hdrop]

/-- The decimal that is read for a number with a fraction or an exponent. -/
def scaledDecimal (whole : Digits) (fraction : Option Digits) (exponent : Option Exponent) :
    Decimal :=
  ⟨decimalValue (whole.chars ++ fraction.elim [] Digits.chars),
    exponent.elim 0 Exponent.value - fraction.elim 0 fun d => d.digits.length⟩

lemma floatPart_whole (whole : Digits) (x : Exponent) (s : Bool) :
    floatPart (plain whole none (some x) s).chars =
      some (scaledDecimal whole none (some x), suffixChars s) := by
  obtain ⟨htake, hdrop⟩ := takeWhile_digits whole.all_chars (endsDigits_tail (some x) s)
  simp only [floatPart, Numeral.chars, fractionChars, List.nil_append, htake, hdrop]
  rcases x.isLetter with hletter | hletter <;>
    simp [exponentChars, Exponent.chars, hletter, x.exponentPart_chars, scaledDecimal]

lemma floatPart_fraction (whole fraction : Digits) (exponent : Option Exponent) (s : Bool) :
    floatPart (plain whole (some fraction) exponent s).chars =
      some (scaledDecimal whole (some fraction) exponent, suffixChars s) := by
  have hpoint : endsDigits ('.' :: (fraction.chars ++ (exponentChars exponent ++ suffixChars s))) :=
    rfl
  obtain ⟨htake, hdrop⟩ := takeWhile_digits whole.all_chars hpoint
  simp only [floatPart, Numeral.chars, fractionChars, List.cons_append, htake, hdrop,
    fractionPart_chars fraction (endsDigits_tail exponent s)]
  rcases exponent with _ | x
  · cases s <;> simp [exponentChars, suffixChars, scaledDecimal, Digits.digits]
  · have hletter := x.isLetter
    simp [exponentChars, Exponent.chars, hletter, x.exponentPart_chars, scaledDecimal,
      Digits.digits]

lemma floatPart_pointed (whole : Digits) :
    floatPart (pointed whole).chars = some (⟨whole.value, 0⟩, []) := by
  have hpoint : endsDigits ['.'] := rfl
  obtain ⟨htake, hdrop⟩ := takeWhile_digits whole.all_chars hpoint
  simp only [floatPart, Numeral.chars, htake, hdrop]
  simp [fractionPart, whole.decimalValue_chars]

section IntegerSuffix

variable (whole : Digits) {s : List Char} (hs : isIntegerSuffix s)

include hs

lemma floatPart_integer : floatPart (whole.chars ++ s) = none := by
  obtain ⟨htake, hdrop⟩ := takeWhile_digits whole.all_chars (endsDigits_of_isIntegerSuffix hs)
  simp only [floatPart, htake, hdrop]
  cases s with
  | nil => rfl
  | cons c s =>
    have hc : c ≠ '.' ∧ c ≠ 'e' ∧ c ≠ 'E' := by simp_all [isIntegerSuffix]
    simp [hc]

lemma integerBase_chars : integerBase (whole.chars ++ s) = (10, whole.chars ++ s) := by
  -- the second character is a digit, a gap or the start of the suffix, but no letter of a base
  have hsecond : ∀ c ∈ (whole.rest ++ s).head?, c ≠ 'x' ∧ c ≠ 'o' ∧ c ≠ 'b' := by
    intro c hc
    rcases hrest : whole.rest with _ | ⟨d, rest⟩
    · rw [hrest] at hc
      cases s with
      | nil => simp at hc
      | cons a s => simp_all [isIntegerSuffix]
    · have hdigit := List.all_eq_true.mp whole.isDigitOrGap_rest d (by simp [hrest])
      obtain rfl : d = c := by simpa [hrest] using hc
      refine ⟨?_, ?_, ?_⟩ <;> rintro rfl <;> contradiction
  rw [Digits.chars, List.cons_append]
  generalize whole.rest ++ s = tail at hsecond
  unfold integerBase
  split <;> simp_all

lemma integerDigits_chars :
    integerDigits 10 0 true (whole.chars ++ s) = some (whole.value, s) := by
  obtain ⟨d, hd, hhex, hvalue⟩ := exists_hexDigit whole.isDigit_first
  have hgap : whole.first ≠ '_' := by
    intro hgap
    have hdigit := whole.isDigit_first
    rw [hgap] at hdigit
    contradiction
  rw [Digits.value, Digits.digits, Digits.chars, List.filter_cons_of_pos whole.isDigit_first,
    Nat.ofDigitChars_cons, Nat.mul_comm 10, hvalue,
    ← integerDigits_append whole.isDigitOrGap_rest (endsDigits_of_isIntegerSuffix hs)]
  simp [integerDigits, hhex, hd]

/-- Digits with a suffix are an integer. -/
lemma number_integer :
    number (whole.chars ++ s) = some (.int whole.value (String.ofList s), []) := by
  have hsuffix : suffix s = (s, []) := by simp_all [isIntegerSuffix]
  have hfloat := floatPart_integer whole hs
  have hbase := integerBase_chars whole hs
  have hdigits := integerDigits_chars whole hs
  rw [Digits.chars, List.cons_append] at hfloat hbase hdigits ⊢
  simp [number, whole.isDigit_first, hfloat, hbase, hdigits, hsuffix, wordBreak]

end IntegerSuffix

lemma isIntegerSuffix_suffixChars (s : Bool) : isIntegerSuffix (suffixChars s) := by
  cases s <;> decide

/-- The value of the literal that is read for a number. -/
def Numeral.reading : Numeral → LiteralValue
  | pointed whole => .float ⟨whole.value, 0⟩ ""
  | plain whole none none suffixed => .int whole.value (String.ofList (suffixChars suffixed))
  | plain whole fraction exponent suffixed =>
    .float (scaledDecimal whole fraction exponent) (String.ofList (suffixChars suffixed))

lemma number_float {cs rest : List Char} {d : Decimal} (hcs : cs.head?.any Char.isDigit)
    (hfloat : floatPart cs = some (d, rest)) (hsuffix : suffix rest = (rest, [])) :
    number cs = some (.float d (String.ofList rest), []) := by
  cases cs with
  | nil => contradiction
  | cons c cs =>
    have hc : c.isDigit := by simpa using hcs
    simp [number, hc, hfloat, hsuffix, wordBreak]

lemma head_chars (n : Numeral) : n.chars.head?.any Char.isDigit := by
  rcases n with whole | ⟨whole, fraction, exponent, s⟩ <;> exact whole.isDigit_first

lemma number_chars (n : Numeral) : number n.chars = some (n.reading, []) := by
  rcases n with whole | ⟨whole, _ | fraction, _ | exponent, s⟩
  · exact number_float (head_chars _) (floatPart_pointed whole) rfl
  · exact number_integer whole (isIntegerSuffix_suffixChars s)
  · exact number_float (head_chars _) (floatPart_whole whole exponent s) (suffix_suffixChars s)
  · exact number_float (head_chars _) (floatPart_fraction whole fraction none s)
      (suffix_suffixChars s)
  · exact number_float (head_chars _) (floatPart_fraction whole fraction (some exponent) s)
      (suffix_suffixChars s)

lemma literal_of_number {cs : List Char} {v : LiteralValue} (h : number cs = some (v, []))
    (hcs : cs.head?.any Char.isDigit) :
    literal cs = some (.literal ⟨String.ofList cs, v⟩, []) := by
  cases cs with
  | nil => contradiction
  | cons c cs =>
    have hc : c.isDigit := by simpa using hcs
    have hplaceholder : placeholder.isPrefixOf (c :: cs) = false := by
      have hparen : '(' ≠ c := by
        rintro rfl
        exact absurd hc (by decide)
      have hopening : placeholder = '(' :: placeholder.tail := by decide
      rw [hopening, List.isPrefixOf_cons_cons, beq_false_of_ne hparen, Bool.false_and]
    simp [literal, hplaceholder, quoted_of_isDigit hc, h]

lemma literal_chars (n : Numeral) :
    literal n.chars = some (.literal ⟨String.ofList n.chars, n.reading⟩, []) :=
  literal_of_number (number_chars n) (head_chars n)

/-! ### Values -/

lemma decimalValue_append (whole fraction : Digits) :
    decimalValue (whole.chars ++ fraction.chars) =
      10 ^ fraction.digits.length * whole.value + fraction.value := by
  rw [decimalValue_eq, List.filter_append, Nat.ofDigitChars_append,
    Nat.ofDigitChars_eq_ofDigitChars_zero]
  rfl

lemma value_scaledDecimal (whole : Digits) (fraction : Option Digits)
    (exponent : Option Exponent) (s : Bool) :
    (scaledDecimal whole fraction exponent).value = (plain whole fraction exponent s).value := by
  rcases fraction with _ | d
  · simp [scaledDecimal, Decimal.value, Numeral.value, fractionValue, whole.decimalValue_chars]
  · simp only [scaledDecimal, Decimal.value, Numeral.value, fractionValue, Option.elim_some,
      decimalValue_append]
    rw [zpow_sub₀ (by norm_num), zpow_natCast]
    push_cast
    field_simp

namespace Numeral

/-- The decimal that is read for a number. -/
def decimal : Numeral → Decimal
  | pointed whole => ⟨whole.value, 0⟩
  | plain whole fraction exponent _ => scaledDecimal whole fraction exponent

lemma value_decimal (n : Numeral) : n.decimal.value = n.value := by
  rcases n with whole | ⟨whole, fraction, exponent, s⟩
  · simp [decimal, Decimal.value, value]
  · exact value_scaledDecimal whole fraction exponent s

lemma decimal_reading (n : Numeral) (text : String) :
    Kind.decimal .f32 (.literal ⟨text, n.reading⟩) = .ok n.decimal := by
  have hsuffix (s : Bool) : checkSuffix .f32 (String.ofList (suffixChars s)) = .ok () := by
    cases s <;> rfl
  rcases n with whole | ⟨whole, _ | fraction, _ | exponent, s⟩
  · rfl
  · simp [Kind.decimal, reading, decimal, scaledDecimal, hsuffix, whole.decimalValue_chars, bind,
      Except.bind, pure, Except.pure]
  all_goals simp [Kind.decimal, reading, decimal, hsuffix, bind, Except.bind, pure, Except.pure]

/-- A text of a number stands for one number only. -/
lemma value_eq_of_chars_eq {n n' : Numeral} (h : n.chars = n'.chars) :
    n.value = n'.value := by
  have hreading : n.reading = n'.reading := by
    have hnumber := number_chars n
    rw [h, number_chars] at hnumber
    simpa using hnumber.symm
  have hdecimal := decimal_reading n ""
  rw [hreading, decimal_reading, Except.ok.injEq] at hdecimal
  rw [← value_decimal, ← value_decimal, hdecimal]

end Numeral

end StateMachine.Source
