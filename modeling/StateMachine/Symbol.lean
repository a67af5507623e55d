import StateMachine.Kind
import StateMachine.Number.Layout
import StateMachine.Text.Quoted
import StateMachine.Text.Units

/-!
# Symbols

The values of each kind, with their switch hash, exact sameness, order and text. Floating-point
symbols are bit patterns, compared after all NaNs have been made one; so a NaN is the same as any
other NaN, and the two zeros differ.
-/

namespace StateMachine

@[reducible] def Symbol : Kind → Type
  | .bool => Bool
  | .char => Char
  | .i8 => Int8
  | .i16 => Int16
  | .i32 => Int32
  | .i64 => Int64
  | .u8 => UInt8
  | .u16 => UInt16
  | .u32 => UInt32
  | .u64 => UInt64
  | .f32 => Binary32
  | .f64 => Binary64
  | .str => String

instance instDecidableEqSymbol : (k : Kind) → DecidableEq (Symbol k)
  | .bool => inferInstanceAs (DecidableEq Bool)
  | .char => inferInstanceAs (DecidableEq Char)
  | .i8 => inferInstanceAs (DecidableEq Int8)
  | .i16 => inferInstanceAs (DecidableEq Int16)
  | .i32 => inferInstanceAs (DecidableEq Int32)
  | .i64 => inferInstanceAs (DecidableEq Int64)
  | .u8 => inferInstanceAs (DecidableEq UInt8)
  | .u16 => inferInstanceAs (DecidableEq UInt16)
  | .u32 => inferInstanceAs (DecidableEq UInt32)
  | .u64 => inferInstanceAs (DecidableEq UInt64)
  | .f32 => inferInstanceAs (DecidableEq Binary32)
  | .f64 => inferInstanceAs (DecidableEq Binary64)
  | .str => inferInstanceAs (DecidableEq String)

/-- Sixty-four bits folded into a hash: the two halves combined by exclusive or. -/
def foldBits (b : UInt64) : Int32 := (b ^^^ (b >>> 32)).toUInt32.toInt32

namespace Symbol

/-- The switch hash. Kinds of at most thirty-two bits hash to their own bits. -/
def hash : {k : Kind} → Symbol k → Int32
  | .bool, b => if b then 1231 else 1237
  | .char, c => c.val.toInt32
  | .i8, n => n.toInt32
  | .i16, n => n.toInt32
  | .i32, n => n
  | .i64, n => foldBits n.toUInt64
  | .u8, n => n.toUInt32.toInt32
  | .u16, n => n.toUInt32.toInt32
  | .u32, n => n.toInt32
  | .u64, n => foldBits n
  | .f32, x => x.canonical.toInt32
  | .f64, x => foldBits x.canonical
  | .str, s => Text.unitHash s

/-- Whether two symbols are the same for a machine. -/
def same : {k : Kind} → Symbol k → Symbol k → Bool
  | .bool, a, b => decide (a = b)
  | .char, a, b => decide (a = b)
  | .i8, a, b => decide (a = b)
  | .i16, a, b => decide (a = b)
  | .i32, a, b => decide (a = b)
  | .i64, a, b => decide (a = b)
  | .u8, a, b => decide (a = b)
  | .u16, a, b => decide (a = b)
  | .u32, a, b => decide (a = b)
  | .u64, a, b => decide (a = b)
  | .f32, x, y => decide (x.canonical = y.canonical)
  | .f64, x, y => decide (x.canonical = y.canonical)
  | .str, a, b => decide (a = b)

/-- The order of symbols; there is none for truth values. -/
def order? : {k : Kind} → Symbol k → Symbol k → Option Ordering
  | .bool, _, _ => none
  | .char, a, b => some (compare a.toNat b.toNat)
  | .i8, a, b => some (compare a.toInt b.toInt)
  | .i16, a, b => some (compare a.toInt b.toInt)
  | .i32, a, b => some (compare a.toInt b.toInt)
  | .i64, a, b => some (compare a.toInt b.toInt)
  | .u8, a, b => some (compare a.toNat b.toNat)
  | .u16, a, b => some (compare a.toNat b.toNat)
  | .u32, a, b => some (compare a.toNat b.toNat)
  | .u64, a, b => some (compare a.toNat b.toNat)
  | .f32, x, y => some (compare x.orderKey y.orderKey)
  | .f64, x, y => some (compare x.orderKey y.orderKey)
  | .str, a, b => some (compareOfLessAndEq a b)

def within {k : Kind} (v start stop : Symbol k) : Bool :=
  (v.order? start == some .gt || v.order? start == some .eq) &&
    (v.order? stop == some .lt || v.order? stop == some .eq)

/-- The text shown in messages and fingerprints. -/
def text : {k : Kind} → Symbol k → String
  | .bool, b => if b then "true" else "false"
  | .char, c => Text.quoteChar c
  | .i8, n => toString n.toInt
  | .i16, n => toString n.toInt
  | .i32, n => toString n.toInt
  | .i64, n => toString n.toInt
  | .u8, n => toString n.toNat
  | .u16, n => toString n.toNat
  | .u32, n => toString n.toNat
  | .u64, n => toString n.toNat
  | .f32, x => Binary32.text x
  | .f64, x => Binary64.text x
  | .str, s => Text.quoteString s

end Symbol

end StateMachine
