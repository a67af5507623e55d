import StateMachine.Number.Shortest

/-!
# Text of floating-point numbers

The digits come from `Shortest.decimal`; this module only places them. A number is written
positionally while its scientific exponent stays within the bounds of the layout, with at least
one digit after the point, and in exponent form outside of them.
-/

namespace StateMachine

/-- Which scientific exponents are written positionally. -/
structure DecimalLayout where
  lowest : Int
  highest : Int

namespace DecimalLayout

/-- From one ten-thousandth up to, and not including, ten to the sixteenth. -/
def debug : DecimalLayout := ⟨-4, 15⟩

def digitChars (d : Decimal) : List Char := Nat.toDigits 10 d.digits

/-- The exponent of the first digit. -/
def scientificExponent (d : Decimal) : Int := d.exponent + (digitChars d).length - 1

/-- The first digit, a point if more follow, the others, and the exponent. -/
def exponentForm (d : Decimal) : List Char :=
  let mantissa :=
    match digitChars d with
    | [] => []
    | [c] => [c]
    | c :: rest => c :: '.' :: rest
  mantissa ++ 'e' :: (toString (scientificExponent d)).toList

/-- All digits in place, filled with zeros on either side of the point. -/
def positionalForm (d : Decimal) : List Char :=
  let digits := digitChars d
  let e := scientificExponent d
  if e < 0 then '0' :: '.' :: List.replicate (-e - 1).toNat '0' ++ digits
  else
    let n := e.toNat + 1
    let whole := digits.take n ++ List.replicate (n - digits.length) '0'
    let rest := digits.drop n
    whole ++ '.' :: (if rest.isEmpty then ['0'] else rest)

def decimalText (l : DecimalLayout) (d : Decimal) : List Char :=
  let e := scientificExponent d
  if l.lowest ≤ e ∧ e ≤ l.highest then positionalForm d else exponentForm d

/-- The text of a bit pattern. A NaN shows no sign. -/
def text (l : DecimalLayout) (f : Format) (bits : Nat) : String :=
  let sign := if f.isNegative bits then "-" else ""
  if f.isNaN bits then "NaN"
  else if !f.isFinite bits then sign ++ "inf"
  else if f.magnitude bits = 0 then sign ++ "0.0"
  else sign ++ String.ofList (l.decimalText (Shortest.decimal f bits))

end DecimalLayout

def Binary32.text (x : Binary32) : String := DecimalLayout.debug.text .binary32 x.bits.toNat

def Binary64.text (x : Binary64) : String := DecimalLayout.debug.text .binary64 x.bits.toNat

end StateMachine
