/-!
# UTF-16 code units

A string as its UTF-16 code units, and the polynomial hash over them.
-/

namespace StateMachine.Text

/-- The code units of a character: itself, or a surrogate pair above the basic plane. -/
def charUnits (c : Char) : List UInt16 :=
  let n := c.toNat
  if n < 0x10000 then [.ofNat n]
  else [.ofNat (0xD800 + (n - 0x10000) / 0x400), .ofNat (0xDC00 + (n - 0x10000) % 0x400)]

def units (s : String) : List UInt16 := s.toList.flatMap charUnits

/-- One step of the hash: the hash so far times thirty-one, plus the unit. -/
def hashStep (h : Int32) (u : UInt16) : Int32 := h * 31 + u.toUInt32.toInt32

/-- The polynomial hash over the code units, wrapping in thirty-two bits. -/
def unitHash (s : String) : Int32 := (units s).foldl hashStep 0

end StateMachine.Text
