import StateMachine.Number.Format

/-!
# Shortest decimal digits

The decimal with the fewest digits that still rounds to a given finite pattern. On each decimal
grid only the two neighbours of the value matter: if any point of the grid rounds to the pattern,
one of them does. The search starts on a grid that is too coarse and refines it until a neighbour
fits; of two that fit the nearer wins, and of two equally near the larger.
-/

namespace StateMachine

/-- A decimal significand and exponent: the number `digits · 10 ^ exponent`. -/
structure Decimal where
  digits : Nat
  exponent : Int
  deriving DecidableEq

namespace Shortest

/-- The numbers that round to a pattern, as an interval of multiples of `2 ^ (place - 2)`. -/
structure Interval where
  center : Nat
  low : Nat
  high : Nat
  /-- Whether the ends belong to the interval. -/
  closed : Bool
  /-- Exponent of the unit in which the three numbers are counted. -/
  unit : Int

/-- The rounding interval of a finite, nonzero pattern. Below a power of two the neighbour is
nearer by half, unless the exponent cannot become smaller. -/
def Interval.of (f : Format) (bits : Nat) : Interval :=
  let m := f.significand bits
  let tight := f.fractionField bits = 0 ∧ 1 < f.exponentField bits
  { center := 4 * m
    low := 4 * m - (if tight then 1 else 2)
    high := 4 * m + 2
    closed := m % 2 = 0
    unit := f.exponent bits - 2 }

/-- The two sides of comparing `n · 10 ^ g` with `m · 2 ^ u` as natural numbers. -/
def onGrid (g u : Int) (n m : Nat) : Nat × Nat :=
  (n * Nat.pow 10 g.toNat * Nat.pow 2 (-u).toNat, m * Nat.pow 2 u.toNat * Nat.pow 10 (-g).toNat)

def Interval.contains (i : Interval) (g : Int) (n : Nat) : Bool :=
  let (x, low) := onGrid g i.unit n i.low
  let (_, high) := onGrid g i.unit n i.high
  if i.closed then low ≤ x ∧ x ≤ high else low < x ∧ x < high

/-- The neighbour of the interval's center on the grid of multiples of `10 ^ g` that lies in the
interval, if there is one: the nearer of two, and of two equally near the larger. -/
def Interval.neighbour? (i : Interval) (g : Int) : Option Nat :=
  let (step, center) := onGrid g i.unit 1 i.center
  let below := center / step
  let down := i.contains g below
  let up := i.contains g (below + 1)
  if up && (!down || step ≤ 2 * (center % step)) then some (below + 1)
  else if down then some below
  else none

/-- Refines the grid until a neighbour fits, at most `fuel` times. -/
def search (i : Interval) : Nat → Int → Decimal
  | 0, g => ⟨(i.neighbour? g).getD 0, g⟩
  | fuel + 1, g =>
    match i.neighbour? g with
    | some n => ⟨n, g⟩
    | none => search i fuel (g - 1)

/-- Removes zeros from the end of the digits, at most `fuel` of them. -/
def trim : Nat → Decimal → Decimal
  | 0, d => d
  | fuel + 1, d =>
    if d.digits ≠ 0 ∧ d.digits % 10 = 0 then trim fuel ⟨d.digits / 10, d.exponent + 1⟩ else d

/-- A power of ten above the number: its binary logarithm times `log 2`, rounded up. -/
def startGrid (f : Format) (bits : Nat) : Int :=
  ((f.significand bits).log2 + 1 + f.exponent bits) * 30103 / 100000 + 1

/-- The shortest decimal of a finite, nonzero pattern. Seventeen digits always suffice, and the
search starts at most three grids above the first digit. -/
def decimal (f : Format) (bits : Nat) : Decimal :=
  trim 20 (search (.of f bits) 20 (startGrid f bits))

def decimalOrZero (f : Format) (bits : Nat) : Decimal :=
  if f.magnitude bits = 0 then ⟨0, 0⟩ else decimal f bits

end Shortest

end StateMachine
