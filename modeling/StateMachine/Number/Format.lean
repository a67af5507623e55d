/-!
# Binary floating-point formats

An interchange format is given by the width of its exponent field and of its fraction. A bit
pattern is read as sign, exponent field and fraction; a finite pattern stands for
`significand · 2 ^ exponent` up to sign. `Format.round` goes the other way: the pattern nearest to
a positive fraction, ties to the even significand.

The two formats in use have words of their own, `Binary32` and `Binary64`, so that a pattern is
kept exactly as given, NaN payloads included.
-/

namespace StateMachine

/-- A binary interchange format. -/
structure Format where
  exponentBits : Nat
  fractionBits : Nat

namespace Format

def binary32 : Format := ⟨8, 23⟩

def binary64 : Format := ⟨11, 52⟩

variable (f : Format)

def signWeight : Nat := Nat.pow 2 (f.exponentBits + f.fractionBits)

/-- The pattern of positive infinity; every larger unsigned pattern is a NaN. -/
def infinity : Nat := (Nat.pow 2 f.exponentBits - 1) * Nat.pow 2 f.fractionBits

/-- The quiet NaN without sign and payload. -/
def quietNaN : Nat := f.infinity + Nat.pow 2 (f.fractionBits - 1)

/-- The exponent of the last place of the subnormal numbers. -/
def minExponent : Int := 2 - (Nat.pow 2 (f.exponentBits - 1) : Nat) - f.fractionBits

/-- The pattern without its sign bit. -/
def magnitude (bits : Nat) : Nat := bits % f.signWeight

def isNegative (bits : Nat) : Bool := f.signWeight ≤ bits

/-- Whether the pattern is a NaN, of either sign and with any payload. -/
def isNaN (bits : Nat) : Bool := f.infinity < f.magnitude bits

/-- Whether the pattern is neither a NaN nor an infinity. -/
def isFinite (bits : Nat) : Bool := f.magnitude bits < f.infinity

def exponentField (bits : Nat) : Nat := f.magnitude bits / Nat.pow 2 f.fractionBits

def fractionField (bits : Nat) : Nat := f.magnitude bits % Nat.pow 2 f.fractionBits

/-- The integer significand, hidden bit included. -/
def significand (bits : Nat) : Nat :=
  if f.exponentField bits = 0 then f.fractionField bits
  else f.fractionField bits + Nat.pow 2 f.fractionBits

/-- The exponent of the last place: a finite pattern has absolute value
`significand · 2 ^ exponent`. -/
def exponent (bits : Nat) : Int := f.minExponent + (f.exponentField bits - 1 : Nat)

/-- All NaNs become the quiet NaN; every other pattern stays. -/
def canonical (bits : Nat) : Nat := if f.isNaN bits then f.quietNaN else bits

/-- The place of a pattern in the total order: negative patterns below positive ones, and larger
magnitudes further from zero. -/
def orderKey (bits : Nat) : Int :=
  if f.isNegative bits then -(f.magnitude bits : Int) - 1 else f.magnitude bits

/-- The quotient `num / den` rounded to an integer, ties to even. -/
def roundDiv (num den : Nat) : Nat :=
  let q := num / den
  let r := 2 * (num % den)
  if r < den then q
  else if den < r then q + 1
  else q + q % 2

/-- The fraction `num / den` as a multiple of `2 ^ e`, rounded to an integer, ties to even. -/
def roundAt (num den : Nat) (e : Int) : Nat :=
  roundDiv (num * Nat.pow 2 (-e).toNat) (den * Nat.pow 2 e.toNat)

/-- The last place at which `num / den` has at most `fractionBits + 1` significand bits: the
smallest of the candidates around the quotient of the leading powers of two, or the subnormal
place if that is larger. -/
def lastPlace (num den : Nat) : Int :=
  let e : Int := (num.log2 : Int) - den.log2 - f.fractionBits
  let small := num * Nat.pow 2 (-e).toNat < den * Nat.pow 2 (f.fractionBits + e.toNat)
  let e := if small then e - 1 else e
  max e f.minExponent

/-- The unsigned pattern nearest to the positive fraction `num / den`, ties to the even
significand; infinity if the fraction is too large. The significand is added to the shifted
exponent field, so a carry out of the significand moves to the next exponent by itself. -/
def round (num den : Nat) : Nat :=
  if num = 0 then 0
  else
    let e := f.lastPlace num den
    let bits := (e - f.minExponent).toNat * Nat.pow 2 f.fractionBits + roundAt num den e
    min bits f.infinity

end Format

/-- A single-precision number, as its bit pattern. -/
structure Binary32 where
  bits : UInt32
  deriving DecidableEq

/-- A double-precision number, as its bit pattern. -/
structure Binary64 where
  bits : UInt64
  deriving DecidableEq

namespace Binary32

/-- The pattern with all NaNs made one. -/
def canonical (x : Binary32) : UInt32 :=
  .ofNat (Format.binary32.canonical x.bits.toNat)

def orderKey (x : Binary32) : Int := Format.binary32.orderKey x.canonical.toNat

def isNegative (x : Binary32) : Bool := Format.binary32.isNegative x.bits.toNat

def isFinite (x : Binary32) : Bool := Format.binary32.isFinite x.bits.toNat

def abs (x : Binary32) : Binary32 := ⟨.ofNat (Format.binary32.magnitude x.bits.toNat)⟩

end Binary32

namespace Binary64

def canonical (x : Binary64) : UInt64 :=
  .ofNat (Format.binary64.canonical x.bits.toNat)

def orderKey (x : Binary64) : Int := Format.binary64.orderKey x.canonical.toNat

def isNegative (x : Binary64) : Bool := Format.binary64.isNegative x.bits.toNat

def isFinite (x : Binary64) : Bool := Format.binary64.isFinite x.bits.toNat

def abs (x : Binary64) : Binary64 := ⟨.ofNat (Format.binary64.magnitude x.bits.toNat)⟩

def neg (x : Binary64) : Binary64 := ⟨x.bits ^^^ .ofNat Format.binary64.signWeight⟩

/-- The nearest single-precision number, sign kept, ties to the even significand. Too large
numbers become infinities, and NaNs the quiet NaN. -/
def narrow (x : Binary64) : Binary32 :=
  let bits := x.bits.toNat
  let sign := if x.isNegative then Format.binary32.signWeight else 0
  if Format.binary64.isNaN bits then ⟨.ofNat Format.binary32.quietNaN⟩
  else if !x.isFinite then ⟨.ofNat (sign + Format.binary32.infinity)⟩
  else
    let m := Format.binary64.significand bits
    let e := Format.binary64.exponent bits
    ⟨.ofNat (sign + Format.binary32.round (m * Nat.pow 2 e.toNat) (Nat.pow 2 (-e).toNat))⟩

end Binary64

end StateMachine
