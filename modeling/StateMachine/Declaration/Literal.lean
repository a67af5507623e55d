import StateMachine.Declaration.Fault
import StateMachine.Number.Reading
import StateMachine.Source.Expr
import StateMachine.Source.Tree.Lexer
import StateMachine.Symbol

/-!
# Symbols as literals

Symbols are written in declarations as literals of their kind, numbers also with a minus sign, and
all of them also in parentheses. `Symbol.ofExpr` reads them, and `Symbol.toExpr` writes them with
the suffix of their kind.
-/

namespace StateMachine

open Source

/-! ### Reading -/

/-- The least and the largest integer of a kind; other kinds have no integers but zero. -/
def Kind.integerRange : Kind → Int × Int
  | .i8 => (-128, 127)
  | .i16 => (-32768, 32767)
  | .i32 => (-2147483648, 2147483647)
  | .i64 => (-9223372036854775808, 9223372036854775807)
  | .u8 => (0, 255)
  | .u16 => (0, 65535)
  | .u32 => (0, 4294967295)
  | .u64 => (0, 18446744073709551615)
  | _ => (0, 0)

/-- Splits a minus sign off an expression, looking through parentheses and groups. -/
def signed (e : Expr) : Bool × Expr :=
  match e.strip with
  | .negate inner => (true, inner.strip)
  | inner => (false, inner)

/-- Fails unless a suffix is empty or the name of the kind. -/
def checkSuffix (k : Kind) (suffix : String) : Except Fault Unit :=
  if suffix = "" ∨ suffix = k.name then .ok () else .error (.wrongSuffix suffix k)

namespace Kind

/-- The digits of an integer literal. A byte is the integer of its code, for bytes only. -/
def integerDigits (k : Kind) (negative : Bool) : Expr → Except Fault Nat
  | .literal l =>
    match l.value with
    | .int n suffix => do
      checkSuffix k suffix
      pure n
    | .byte b => if k = .u8 ∧ !negative then .ok b.toNat else .error (.expectedLiteral k)
    | _ => .error (.expectedLiteral k)
  | _ => .error (.expectedLiteral k)

def integer (k : Kind) (e : Expr) : Except Fault Int := do
  let (negative, inner) := signed e
  let digits ← k.integerDigits negative inner
  (readInteger k.integerRange.1 k.integerRange.2 negative digits).mapError (.invalidLiteral k)

def decimal (k : Kind) : Expr → Except Fault Decimal
  | .literal l =>
    match l.value with
    | .float d suffix => do
      checkSuffix k suffix
      pure d
    | .int n suffix => do
      checkSuffix k suffix
      pure ⟨n, 0⟩
    | _ => .error (.expectedLiteral k)
  | _ => .error (.expectedLiteral k)

def float (k : Kind) (e : Expr) : Except Fault Binary64 := do
  let (negative, inner) := signed e
  let x := (← k.decimal inner).toBinary64
  if !x.isFinite then .error (.outOfRange k)
  else if negative then pure x.neg
  else pure x

end Kind

namespace Symbol

/-- The symbol that an expression stands for. Single-precision numbers are read in double
precision first. -/
def ofExpr : (k : Kind) → Expr → Except Fault (Symbol k)
  | .bool, e =>
    match e.strip with
    | .literal ⟨_, .bool b⟩ => .ok b
    | _ => .error (.expectedLiteral .bool)
  | .char, e =>
    match e.strip with
    | .literal ⟨_, .char c⟩ => .ok c
    | _ => .error (.expectedLiteral .char)
  | .i8, e => return Int8.ofInt (← Kind.integer .i8 e)
  | .i16, e => return Int16.ofInt (← Kind.integer .i16 e)
  | .i32, e => return Int32.ofInt (← Kind.integer .i32 e)
  | .i64, e => return Int64.ofInt (← Kind.integer .i64 e)
  | .u8, e => return UInt8.ofInt (← Kind.integer .u8 e)
  | .u16, e => return UInt16.ofInt (← Kind.integer .u16 e)
  | .u32, e => return UInt32.ofInt (← Kind.integer .u32 e)
  | .u64, e => return UInt64.ofInt (← Kind.integer .u64 e)
  | .f32, e => do
    let x := (← Kind.float .f32 e).narrow
    if x.isFinite then pure x else .error (.outOfRange .f32)
  | .f64, e => Kind.float .f64 e
  | .str, e =>
    match e.strip with
    | .literal ⟨_, .str s⟩ => .ok s
    | _ => .error (.expectedLiteral .str)

end Symbol

/-! ### Writing -/

def signedLiteral (negative : Bool) (l : Source.Literal) : Expr :=
  if negative then .negate (.literal l) else .literal l

def Kind.integerExpr (k : Kind) (n : Int) : Expr :=
  signedLiteral (n < 0) ⟨toString n.natAbs ++ k.name, .int n.natAbs k.name⟩

/-- A floating-point number with the suffix of a kind, from the text of its magnitude. -/
def Kind.floatExpr (k : Kind) (negative : Bool) (magnitude : String) (d : Decimal) : Expr :=
  signedLiteral negative ⟨magnitude ++ k.name, .float d k.name⟩

namespace Symbol

/-- A symbol as an expression: a literal with the suffix of its kind if it is a number, with a
minus sign before it if it is negative. -/
def toExpr : {k : Kind} → Symbol k → Expr
  | .bool, b => .literal ⟨if b then "true" else "false", .bool b⟩
  | .char, c => .literal ⟨Text.quoteChar c, .char c⟩
  | .i8, n => Kind.integerExpr .i8 n.toInt
  | .i16, n => Kind.integerExpr .i16 n.toInt
  | .i32, n => Kind.integerExpr .i32 n.toInt
  | .i64, n => Kind.integerExpr .i64 n.toInt
  | .u8, n => Kind.integerExpr .u8 n.toNat
  | .u16, n => Kind.integerExpr .u16 n.toNat
  | .u32, n => Kind.integerExpr .u32 n.toNat
  | .u64, n => Kind.integerExpr .u64 n.toNat
  | .f32, x => Kind.floatExpr .f32 (Binary32.isNegative x) (Binary32.text (Binary32.abs x))
      (Shortest.decimalOrZero .binary32 x.bits.toNat)
  | .f64, x => Kind.floatExpr .f64 (Binary64.isNegative x) (Binary64.text (Binary64.abs x))
      (Shortest.decimalOrZero .binary64 x.bits.toNat)
  | .str, s => .literal (.ofString s)

def literal {k : Kind} (v : Symbol k) : String := (toExpr v).spelling

end Symbol

end StateMachine
