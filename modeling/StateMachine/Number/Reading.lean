import StateMachine.Number.Shortest

/-!
# Reading decimals

The bit pattern nearest to a decimal number. Numbers that are far beyond a format on either side
are decided by their number of digits, so that no large power has to be computed for them.
-/

namespace StateMachine

namespace Decimal

/-- The exponent of the place before the first digit: the number is less than ten to this power,
and at least a tenth of it. -/
def order (d : Decimal) : Int := d.exponent + (Nat.toDigits 10 d.digits).length

/-- A power of ten beyond which every number is too large for a format, and below whose inverse
every number is rounded to zero. -/
def limit (f : Format) : Nat := Nat.pow 2 (f.exponentBits - 1) + f.fractionBits

def fraction (d : Decimal) : Nat × Nat :=
  (d.digits * Nat.pow 10 d.exponent.toNat, Nat.pow 10 (-d.exponent).toNat)

/-- The unsigned pattern nearest to a decimal, ties to the even significand; infinity if the
decimal is too large. -/
def round (f : Format) (d : Decimal) : Nat :=
  if d.digits = 0 then 0
  else if (limit f : Int) < d.order then f.infinity
  else if d.order < -(limit f : Int) then 0
  else f.round d.fraction.1 d.fraction.2

def toBinary64 (d : Decimal) : Binary64 := ⟨.ofNat (d.round .binary64)⟩

end Decimal

end StateMachine
