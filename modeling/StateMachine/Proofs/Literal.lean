import StateMachine.Proofs.Numeral
import StateMachine.Source.Grammar

/-!
# Integer literals

An integer kind has the integers of a word with a number of bits. A literal with a minus sign or
without one is read as the integer that it spells if its suffix, its sign and its size fit the kind,
and it is refused otherwise. Every symbol is written as the text of a literal that is read as the
symbol again.
-/

namespace StateMachine

open Source

/-! ### Words -/

/-- Integers with a number of bits, one of them for the sign if there is one. -/
structure Word where
  isSigned : Bool
  bits : Nat

def Word.Holds (w : Word) (n : Int) : Prop :=
  if w.isSigned then -2 ^ (w.bits - 1) ≤ n ∧ n < 2 ^ (w.bits - 1) else 0 ≤ n ∧ n < 2 ^ w.bits

/-- The integers of a kind, if it has any. -/
def Kind.word? : Kind → Option Word
  | .i8 => some ⟨true, 8⟩
  | .i16 => some ⟨true, 16⟩
  | .i32 => some ⟨true, 32⟩
  | .i64 => some ⟨true, 64⟩
  | .u8 => some ⟨false, 8⟩
  | .u16 => some ⟨false, 16⟩
  | .u32 => some ⟨false, 32⟩
  | .u64 => some ⟨false, 64⟩
  | _ => none

/-- The integer that a symbol is, if it is one. -/
def Symbol.integer? : {k : Kind} → Symbol k → Option Int
  | .i8, n => some n.toInt
  | .i16, n => some n.toInt
  | .i32, n => some n.toInt
  | .i64, n => some n.toInt
  | .u8, n => some n.toNat
  | .u16, n => some n.toNat
  | .u32, n => some n.toNat
  | .u64, n => some n.toNat
  | _, _ => none

/-- The integers of a word as symbols of a kind that are read and written. -/
structure Symbol.Integral (k : Kind) (w : Word) where
  toInt : Symbol k → Int
  ofInt : Int → Symbol k
  ofInt_toInt : ∀ v, ofInt (toInt v) = v
  toInt_ofInt : ∀ n, w.Holds n → toInt (ofInt n) = n
  holds_toInt : ∀ v, w.Holds (toInt v)
  integer?_eq : ∀ v : Symbol k, v.integer? = some (toInt v)
  ofExpr_eq : ∀ e, Symbol.ofExpr k e = (k.integer e).map ofInt
  toExpr_eq : ∀ v : Symbol k, v.toExpr = k.integerExpr (toInt v)

variable {k : Kind} {w : Word}

lemma Kind.holds_iff (hk : k.word? = some w) {n : Int} :
    w.Holds n ↔ k.integerRange.1 ≤ n ∧ n ≤ k.integerRange.2 := by
  cases k <;> cases hk <;> simp [Word.Holds, Kind.integerRange] <;> omega

lemma Kind.isSigned_iff (hk : k.word? = some w) : w.isSigned ↔ k.integerRange.1 ≠ 0 := by
  cases k <;> cases hk <;> simp [Kind.integerRange]

lemma Kind.isIntegerSuffix_name (hk : k.word? = some w) :
    Lexer.isIntegerSuffix k.name.toList := by
  cases k <;> cases hk <;> decide

/-- The integers of a word without sign are residues. -/
def Symbol.Integral.unsigned {bits : Nat} (toNat : Symbol k → Nat) (ofInt : Int → Symbol k)
    (hinj : ∀ {u v}, toNat u = toNat v → u = v) (hlt : ∀ v, toNat v < 2 ^ bits)
    (hmod : ∀ n, (toNat (ofInt n) : Int) = n % 2 ^ bits)
    (hinteger : ∀ v : Symbol k, v.integer? = some (toNat v : Int))
    (hofExpr : ∀ e, Symbol.ofExpr k e = (k.integer e).map ofInt)
    (htoExpr : ∀ v : Symbol k, v.toExpr = k.integerExpr (toNat v)) :
    Symbol.Integral k ⟨false, bits⟩ where
  toInt v := toNat v
  ofInt := ofInt
  ofInt_toInt v := by
    apply hinj
    have h := hmod (toNat v)
    rwa [Int.emod_eq_of_lt (Int.natCast_nonneg _) (by exact_mod_cast hlt v), Int.natCast_inj] at h
  toInt_ofInt n h := by rw [hmod, Int.emod_eq_of_lt h.1 h.2]
  holds_toInt v := ⟨Int.natCast_nonneg _, by exact_mod_cast hlt v⟩
  integer?_eq := hinteger
  ofExpr_eq := hofExpr
  toExpr_eq := htoExpr

lemma Symbol.exists_integral (hk : k.word? = some w) : Nonempty (Symbol.Integral k w) := by
  cases k <;> cases hk
  case i8 =>
    exact ⟨Int8.toInt, Int8.ofInt, Int8.ofInt_toInt, fun n h => Int8.toInt_ofInt_of_le h.1 h.2,
      fun v => ⟨v.le_toInt, v.toInt_lt⟩, fun _ => rfl, fun _ => rfl, fun _ => rfl⟩
  case i16 =>
    exact ⟨Int16.toInt, Int16.ofInt, Int16.ofInt_toInt, fun n h => Int16.toInt_ofInt_of_le h.1 h.2,
      fun v => ⟨v.le_toInt, v.toInt_lt⟩, fun _ => rfl, fun _ => rfl, fun _ => rfl⟩
  case i32 =>
    exact ⟨Int32.toInt, Int32.ofInt, Int32.ofInt_toInt, fun n h => Int32.toInt_ofInt_of_le h.1 h.2,
      fun v => ⟨v.le_toInt, v.toInt_lt⟩, fun _ => rfl, fun _ => rfl, fun _ => rfl⟩
  case i64 =>
    exact ⟨Int64.toInt, Int64.ofInt, Int64.ofInt_toInt, fun n h => Int64.toInt_ofInt_of_le h.1 h.2,
      fun v => ⟨v.le_toInt, v.toInt_lt⟩, fun _ => rfl, fun _ => rfl, fun _ => rfl⟩
  case u8 =>
    refine ⟨.unsigned UInt8.toNat UInt8.ofInt UInt8.toNat_inj.mp UInt8.toNat_lt (fun n => ?_)
      (fun _ => rfl) (fun _ => rfl) fun _ => rfl⟩
    rw [UInt8.ofInt, UInt8.toNat_ofNat']
    omega
  case u16 =>
    refine ⟨.unsigned UInt16.toNat UInt16.ofInt UInt16.toNat_inj.mp UInt16.toNat_lt (fun n => ?_)
      (fun _ => rfl) (fun _ => rfl) fun _ => rfl⟩
    rw [UInt16.ofInt, UInt16.toNat_ofNat']
    omega
  case u32 =>
    refine ⟨.unsigned UInt32.toNat UInt32.ofInt UInt32.toNat_inj.mp UInt32.toNat_lt (fun n => ?_)
      (fun _ => rfl) (fun _ => rfl) fun _ => rfl⟩
    rw [UInt32.ofInt, UInt32.toNat_ofNat']
    omega
  case u64 =>
    refine ⟨.unsigned UInt64.toNat UInt64.ofInt UInt64.toNat_inj.mp UInt64.toNat_lt (fun n => ?_)
      (fun _ => rfl) (fun _ => rfl) fun _ => rfl⟩
    rw [UInt64.ofInt, UInt64.toNat_ofNat']
    omega

/-! ### Reading -/

/-- A literal with a minus sign before it if it is `negative`, and parentheses and groups around
either of them. -/
inductive SignedLiteral (l : Source.Literal) : Bool → Expr → Prop
  | literal : SignedLiteral l false (.literal l)
  | negate {e : Expr} (h : SignedLiteral l false e) : SignedLiteral l true (.negate e)
  | paren {negative : Bool} {e : Expr} (h : SignedLiteral l negative e) :
      SignedLiteral l negative (.paren e)
  | group {negative : Bool} {e : Expr} (h : SignedLiteral l negative e) :
      SignedLiteral l negative (.group e)

/-- The integer that digits stand for, with or without a minus sign. -/
def spelled (negative : Bool) (digits : Nat) : Int := if negative then -digits else digits

/-- The literals of an integer kind: its name may stand as a suffix, a minus sign only if there are
negative integers, and the integer has to fit. -/
structure Word.Admits (w : Word) (name : String) (negative : Bool) (digits : Nat)
    (suffix : String) : Prop where
  suffix : suffix = "" ∨ suffix = name
  sign : negative → w.isSigned
  holds : w.Holds (spelled negative digits)

variable {l : Source.Literal} {negative : Bool} {e : Expr} {digits : Nat} {suffix : String}

lemma SignedLiteral.signed_eq (h : SignedLiteral l negative e) :
    signed e = (negative, .literal l) := by
  induction h with
  | literal => rfl
  | @negate e h ih =>
    have hstrip : e.strip = .literal l := by
      unfold signed at ih
      split at ih
      · cases ih
      · exact (Prod.mk.inj ih).2
    rw [← hstrip]
    rfl
  | paren h ih => exact ih
  | group h ih => exact ih

lemma SignedLiteral.of_signedLiteral : SignedLiteral l negative (signedLiteral negative l) := by
  cases negative with
  | false => exact .literal
  | true => exact .negate .literal

/-- Digits are read between bounds if they spell an integer there, whatever is made of a fault. -/
lemma readInteger_eq_ok_iff {ε : Type} {f : IntegerFault → ε} {low high n : Int} (hlow : low ≤ 0)
    (hhigh : 0 ≤ high) :
    (readInteger low high negative digits).mapError f = .ok n ↔
      n = spelled negative digits ∧ (negative → low ≠ 0) ∧ low ≤ n ∧ n ≤ high := by
  cases negative with
  | false => grind [readInteger, spelled, Except.mapError]
  | true => grind [readInteger, spelled, Except.mapError]

lemma Word.holds_zero (w : Word) : w.Holds 0 := by
  unfold Holds
  split_ifs <;> simp

section Reading

variable (hk : k.word? = some w) (he : SignedLiteral l negative e)
  (hl : l.value = .int digits suffix)

include hk he hl

lemma Kind.integer_eq_ok_iff {n : Int} :
    k.integer e = .ok n ↔ w.Admits k.name negative digits suffix ∧ n = spelled negative digits := by
  obtain ⟨hlow, hhigh⟩ := (Kind.holds_iff hk).mp w.holds_zero
  simp only [Kind.integer, he.signed_eq, Kind.integerDigits, hl, checkSuffix]
  by_cases hsuffix : suffix = "" ∨ suffix = k.name
  · rw [if_pos hsuffix]
    refine (readInteger_eq_ok_iff hlow hhigh).trans ?_
    constructor
    · rintro ⟨rfl, hsign, hrange⟩
      exact ⟨⟨hsuffix, fun h => (Kind.isSigned_iff hk).mpr (hsign h),
        (Kind.holds_iff hk).mpr hrange⟩, rfl⟩
    · rintro ⟨hadmits, rfl⟩
      exact ⟨rfl, fun h => (Kind.isSigned_iff hk).mp (hadmits.sign h),
        (Kind.holds_iff hk).mp hadmits.holds⟩
  · rw [if_neg hsuffix]
    constructor
    · intro h
      cases h
    · rintro ⟨hadmits, -⟩
      exact absurd hadmits.suffix hsuffix

lemma Symbol.ofExpr_eq_ok_iff {v : Symbol k} :
    Symbol.ofExpr k e = .ok v ↔
      w.Admits k.name negative digits suffix ∧ v.integer? = some (spelled negative digits) := by
  obtain ⟨i⟩ := Symbol.exists_integral hk
  rw [i.ofExpr_eq, i.integer?_eq, Option.some.injEq]
  constructor
  · intro h
    obtain ⟨n, hn, rfl⟩ : ∃ n, k.integer e = .ok n ∧ i.ofInt n = v := by
      rcases hread : k.integer e with fault | n
      · rw [hread] at h
        cases h
      · rw [hread] at h
        exact ⟨n, rfl, Except.ok.inj h⟩
    obtain ⟨hadmits, rfl⟩ := (Kind.integer_eq_ok_iff hk he hl).mp hn
    exact ⟨hadmits, i.toInt_ofInt _ hadmits.holds⟩
  · rintro ⟨hadmits, hv⟩
    rw [(Kind.integer_eq_ok_iff hk he hl).mpr ⟨hadmits, rfl⟩, ← hv]
    exact congrArg Except.ok (i.ofInt_toInt v)

lemma Symbol.exists_ofExpr_eq_error_iff :
    (∃ fault, Symbol.ofExpr k e = .error fault) ↔ ¬ w.Admits k.name negative digits suffix := by
  obtain ⟨i⟩ := Symbol.exists_integral hk
  constructor
  · rintro ⟨fault, hfault⟩ hadmits
    have hok : Symbol.ofExpr k e = .ok (i.ofInt (spelled negative digits)) := by
      rw [Symbol.ofExpr_eq_ok_iff hk he hl, i.integer?_eq, i.toInt_ofInt _ hadmits.holds]
      exact ⟨hadmits, rfl⟩
    rw [hok] at hfault
    cases hfault
  · intro hadmits
    rcases hread : Symbol.ofExpr k e with fault | v
    · exact ⟨fault, rfl⟩
    · exact absurd ((Symbol.ofExpr_eq_ok_iff hk he hl).mp hread).1 hadmits

end Reading

/-! ### Writing -/

lemma spelled_natAbs (n : Int) : spelled (decide (n < 0)) n.natAbs = n := by
  unfold spelled
  split_ifs with h <;> rw [decide_eq_true_iff] at h <;> omega

lemma Symbol.ofExpr_toExpr (hk : k.word? = some w) (v : Symbol k) :
    Symbol.ofExpr k v.toExpr = .ok v := by
  obtain ⟨i⟩ := Symbol.exists_integral hk
  have hholds := i.holds_toInt v
  rw [i.toExpr_eq, Kind.integerExpr,
    Symbol.ofExpr_eq_ok_iff hk SignedLiteral.of_signedLiteral rfl, spelled_natAbs, i.integer?_eq]
  refine ⟨⟨Or.inr rfl, fun hneg => ?_, by rwa [spelled_natAbs]⟩, rfl⟩
  -- without a sign no integer is negative
  by_contra hsigned
  rw [Word.Holds, if_neg hsigned] at hholds
  exact absurd (of_decide_eq_true hneg) (not_lt.mpr hholds.1)

namespace Source.Lexer

variable {c : Char} {cs : List Char}

lemma trees_of_literal (hc : c.isDigit) (h : literal (c :: cs) = some (.literal l, []))
    (fuel : Nat) (done : List Tree) :
    trees (fuel + 2) [] done (c :: cs) = some (done.reverse ++ [.literal l]) := by
  have hskip : skipOne (c :: cs) = none := by
    refine forall_digit (p := fun c => skipOne (c :: cs) = none) (fun n hlt hle => ?_) hc
    interval_cases n <;> rfl
  have hdoc : docComment (c :: cs) = none := by
    refine forall_digit (p := fun c => docComment (c :: cs) = none) (fun n hlt hle => ?_) hc
    interval_cases n <;> rfl
  have hbrackets : opens? c = none ∧ closes? c = none :=
    forall_digit (p := fun c => opens? c = none ∧ closes? c = none) (by decide) hc
  rw [trees]
  simp only [hskip, hdoc, hbrackets.1, hbrackets.2, h, ite_self]
  simp [trees, skipOne, docComment]

lemma trees_minus (fuel : Nat) :
    trees (fuel + 2) [] [] ('-' :: ' ' :: cs) = trees fuel [] [.mark '-' .alone] cs :=
  rfl

end Source.Lexer

lemma ofString?_of_toList {s : String} {c : Char} {cs : List Char} (hs : s.toList = c :: cs)
    (hc : c ≠ '\ufeff') : Tree.ofString? s = Lexer.trees (cs.length + 2) [] [] (c :: cs) := by
  rw [Tree.ofString?, hs]
  split
  · simp_all
  · rfl

/-- A number with or without a minus sign is cut into its trees again. -/
lemma ofString?_signedLiteral {c : Char} {cs : List Char}
    (h : Lexer.literal (c :: cs) = some (.literal l, [])) (htext : l.text.toList = c :: cs)
    (hc : c.isDigit) (negative : Bool) :
    Tree.ofString? (signedLiteral negative l).spelling = some (signedLiteral negative l).trees := by
  cases negative with
  | false =>
    have hspelling : (signedLiteral false l).spelling.toList = c :: cs := by
      simp [signedLiteral, Expr.spelling, Expr.trees, Tree.spell, Tree.text, htext]
    have hmark : c ≠ '\ufeff' := by
      rintro rfl
      contradiction
    rw [ofString?_of_toList hspelling hmark, Lexer.trees_of_literal hc h]
    rfl
  | true =>
    have hspelling : (signedLiteral true l).spelling.toList = '-' :: ' ' :: c :: cs := by
      simp [signedLiteral, Expr.spelling, Expr.trees, Tree.spell, Tree.text, Tree.isJoint, htext]
    rw [ofString?_of_toList hspelling (by decide), Lexer.trees_minus, List.length_cons,
      List.length_cons, Lexer.trees_of_literal hc h]
    rfl

lemma Kind.ofString?_integerExpr (hk : k.word? = some w) (n : Int) :
    Tree.ofString? (k.integerExpr n).spelling = some (k.integerExpr n).trees := by
  obtain ⟨d, hchars, hvalue⟩ := exists_digits n.natAbs
  have htext : (toString n.natAbs ++ k.name).toList = d.chars ++ k.name.toList := by
    rw [String.toList_append, Nat.toString_eq_ofList_toDigits, String.toList_ofList, ← hchars]
  have hnumber := number_integer d (Kind.isIntegerSuffix_name hk)
  have hliteral := literal_of_number hnumber d.isDigit_first
  rw [hvalue, String.ofList_toList, ← htext, String.ofList_toList, htext] at hliteral
  rw [Digits.chars, List.cons_append] at htext hliteral
  exact ofString?_signedLiteral hliteral htext d.isDigit_first _

lemma Kind.ofTrees_integerExpr (k : Kind) (n : Int) :
    Expr.ofTrees (k.integerExpr n).trees = .ok (k.integerExpr n) := by
  unfold Kind.integerExpr signedLiteral
  split_ifs <;> rfl

/-- An integer literal is read exactly if its suffix, its sign and its size fit the kind, and then
as the integer that it spells. The text of every symbol is read as an expression that is read as
the symbol. -/
theorem Symbol.integer_literals_read (hk : k.word? = some w) :
    (∀ l negative e digits suffix, SignedLiteral l negative e → l.value = .int digits suffix →
      (∀ v : Symbol k, Symbol.ofExpr k e = .ok v ↔
        w.Admits k.name negative digits suffix ∧ v.integer? = some (spelled negative digits)) ∧
      ((∃ fault, Symbol.ofExpr k e = .error fault) ↔
        ¬ w.Admits k.name negative digits suffix)) ∧
    ∀ v : Symbol k, ∃ trees, Tree.ofString? v.literal = some trees ∧
      Expr.ofTrees trees = .ok v.toExpr ∧ Symbol.ofExpr k v.toExpr = .ok v := by
  constructor
  · intro l negative e digits suffix he hl
    exact ⟨fun v => Symbol.ofExpr_eq_ok_iff hk he hl, Symbol.exists_ofExpr_eq_error_iff hk he hl⟩
  · intro v
    obtain ⟨i⟩ := Symbol.exists_integral hk
    refine ⟨v.toExpr.trees, ?_, ?_, Symbol.ofExpr_toExpr hk v⟩
    · rw [Symbol.literal, i.toExpr_eq]
      exact Kind.ofString?_integerExpr hk _
    · rw [i.toExpr_eq]
      exact Kind.ofTrees_integerExpr k _

/-- The digits of the least integer, which are too large without a minus sign. -/
def leastLiteral : Source.Literal :=
  ⟨"9_223_372_036_854_775_808i64", .int 9223372036854775808 "i64"⟩

theorem Symbol.integer_literals_read_least :
    Kind.word? .i64 = some ⟨true, 64⟩ ∧
      SignedLiteral leastLiteral true (.paren (.negate (.group (.literal leastLiteral)))) ∧
      Symbol.ofExpr .i64 (.paren (.negate (.group (.literal leastLiteral)))) =
        .ok Int64.minValue ∧
      (∃ fault, Symbol.ofExpr .i64 (.literal leastLiteral) = .error fault) ∧
      ∃ trees, Tree.ofString? (Symbol.literal (k := .i64) Int64.minValue) = some trees ∧
        Expr.ofTrees trees = .ok (Symbol.toExpr (k := .i64) Int64.minValue) ∧
        Symbol.ofExpr .i64 (Symbol.toExpr (k := .i64) Int64.minValue) = .ok Int64.minValue := by
  obtain ⟨hread, hwrite⟩ := Symbol.integer_literals_read (k := .i64) (w := ⟨true, 64⟩) rfl
  have hsigned : SignedLiteral leastLiteral true
      (.paren (.negate (.group (.literal leastLiteral)))) :=
    .paren (.negate (.group .literal))
  refine ⟨rfl, hsigned, ?_, ?_, hwrite Int64.minValue⟩
  · apply ((hread _ _ _ _ _ hsigned rfl).1 Int64.minValue).mpr
    refine ⟨⟨Or.inr rfl, fun _ => rfl, ?_⟩, ?_⟩
    · simp [Word.Holds, spelled]
    · decide
  · apply (hread _ _ _ _ _ .literal rfl).2.mpr
    intro hadmits
    have hholds := hadmits.holds
    simp [Word.Holds, spelled] at hholds

end StateMachine
