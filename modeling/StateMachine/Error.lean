import StateMachine.Kind

/-!
# Errors

The causes for which an edit, a build or a compilation is refused, each with its message.
-/

namespace StateMachine

/-- Why a state cannot take the part an edit gives to it. -/
inductive RoleConflict
  | alreadyExit
  | alreadyInit
  | alreadyDeclared
  | isInit
  | isExit
  | notASource
  | notATarget
  deriving DecidableEq

def RoleConflict.reason : RoleConflict → String
  | .alreadyExit => "already used as the exit state"
  | .alreadyInit => "already used as the initial state"
  | .alreadyDeclared => "already declared as a state"
  | .isInit => "is the initial state"
  | .isExit => "is the exit state"
  | .notASource => "is neither the initial state nor a declared state"
  | .notATarget => "is neither a declared state nor the exit state"

/-- Why edits do not describe a valid model. States and symbols are given by their text. -/
inductive ModelError
  | missingInit
  | missingExit
  | initIsExit
  | duplicateUnconditional (state : String)
  | invalidRange (start stop : String)
  | unorderedRange (kind : Kind)
  | degenerateSet (distinct : Nat)
  | ambiguousToken (state token : String)
  | unreachableState (state : String)
  deriving DecidableEq

def ModelError.message : ModelError → String
  | .missingInit => "initial state is not set"
  | .missingExit => "exit state is not set"
  | .initIsExit => "initial and exit state must be different"
  | .duplicateUnconditional state =>
    "state " ++ state ++ " has more than one unconditional transition"
  | .invalidRange start stop =>
    "range [" ++ start ++ ", " ++ stop ++ "] is empty: start must be less than end"
  | .unorderedRange kind => "`" ++ kind.name ++ "` tokens cannot be used in range checks"
  | .degenerateSet distinct =>
    "set token needs at least two distinct values, got " ++ toString distinct
  | .ambiguousToken state token =>
    "token " ++ token ++ " of state " ++ state ++ " matches more than one transition"
  | .unreachableState state => "state " ++ state ++ " is unreachable from the initial state"

inductive SwitchError
  | empty
  | zeroDelta
  | tableTooLarge (span limit : Nat)
  deriving DecidableEq

def SwitchError.message : SwitchError → String
  | .empty => "cannot create an empty switch map"
  | .zeroDelta => "max delta must be greater than zero"
  | .tableTooLarge span limit =>
    "dense table spanning " ++ toString span ++ " slots exceeds the limit of " ++ toString limit

/-- Why a compilation cannot be carried out although nothing is wrong with the model. -/
inductive Defect
  | tooFewStates (count : Nat)
  | repeatedState (state : String)
  | unnumberedState (state : String)
  /-- A failure reported by whoever supplies a routine. -/
  | reported (message : String)
  deriving DecidableEq

def Defect.message : Defect → String
  | .tooFewStates count =>
    "a translation needs an exit and an initial state, got " ++ toString count ++ " values"
  | .repeatedState state => "state " ++ state ++ " is listed twice"
  | .unnumberedState state => "state " ++ state ++ " has no id"
  | .reported message => message

/-- Why an edit, a build or a compilation is refused. -/
inductive Error
  | invalidState (state : String) (conflict : RoleConflict)
  | invalidModel (cause : ModelError)
  | unsupportedKind (kind : Kind)
  | compilation (defect : Defect)
  | switch (cause : SwitchError)
  deriving DecidableEq

namespace Error

def message : Error → String
  | .invalidState state conflict => "invalid state " ++ state ++ ": " ++ conflict.reason
  | .invalidModel cause => "invalid model: " ++ cause.message
  | .unsupportedKind kind => "unsupported token type `" ++ kind.name ++ "`"
  | .compilation defect => "model compilation failed: " ++ defect.message
  | .switch cause => cause.message

/-- Whether the error points at the compiler rather than at its input. -/
def isDefect : Error → Bool
  | .compilation _ => true
  | _ => false

end Error

end StateMachine
