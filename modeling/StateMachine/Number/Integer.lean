/-!
# Integers between bounds

Digits, with or without a minus sign, as an integer of a type that has a least and a largest one.
-/

namespace StateMachine

/-- Why digits are no integer of a type. -/
inductive IntegerFault
  | tooLarge
  | tooSmall
  | invalidDigit
  deriving DecidableEq

def IntegerFault.message : IntegerFault → String
  | .tooLarge => "number too large to fit in target type"
  | .tooSmall => "number too small to fit in target type"
  | .invalidDigit => "invalid digit found in string"

/-- The integer between two bounds that digits stand for, with or without a minus sign. A type
without negative numbers knows no minus sign at all. -/
def readInteger (low high : Int) (negative : Bool) (digits : Nat) : Except IntegerFault Int :=
  if negative then
    if low = 0 then .error .invalidDigit
    else if -(digits : Int) < low then .error .tooSmall
    else .ok (-digits)
  else if high < (digits : Int) then .error .tooLarge
  else .ok digits

end StateMachine
