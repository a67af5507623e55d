/-!
# Symbol kinds

The closed set of types a machine can switch on, and how values of a kind that share a switch hash
are told apart.
-/

namespace StateMachine

/-- The type of the symbols a machine reads. -/
inductive Kind
  | bool
  | char
  | i8
  | i16
  | i32
  | i64
  | u8
  | u16
  | u32
  | u64
  | f32
  | f64
  | str
  deriving DecidableEq

inductive Comparison
  /-- The hash alone decides. -/
  | identity
  | value
  /-- Bit patterns wider than the hash. -/
  | bits
  | content
  deriving DecidableEq

/-- Whether equal hashes already mean equal values. -/
def Comparison.hashIsExact (c : Comparison) : Bool := c = .identity

namespace Kind

/-- Every kind once, in the order in which kinds are listed. -/
def all : List Kind :=
  [.bool, .char, .i8, .i16, .i32, .i64, .u8, .u16, .u32, .u64, .f32, .f64, .str]

/-- The name shown in messages and fingerprints. -/
def name : Kind → String
  | .bool => "bool"
  | .char => "char"
  | .i8 => "i8"
  | .i16 => "i16"
  | .i32 => "i32"
  | .i64 => "i64"
  | .u8 => "u8"
  | .u16 => "u16"
  | .u32 => "u32"
  | .u64 => "u64"
  | .f32 => "f32"
  | .f64 => "f64"
  | .str => "str"

def isOrderable (k : Kind) : Bool := k ≠ .bool

def comparison : Kind → Comparison
  | .i64 | .u64 => .value
  | .f64 => .bits
  | .str => .content
  | _ => .identity

end Kind

end StateMachine
