import StateMachine.Error
import StateMachine.Source.Parse

/-!
# Faults in declarations

The reasons for which a declaration is refused, each with its message.
-/

namespace StateMachine

inductive ArgumentForm
  | word
  | list
  | literal
  deriving DecidableEq

def ArgumentForm.name : ArgumentForm → String
  | .word => "word"
  | .list => "list"
  | .literal => "literal"

inductive Fault
  | grammar (cause : Source.GrammarFault)
  | unknownArgument (name : String)
  | missingArgument (name : String)
  | integer (cause : IntegerFault)
  | zeroDelta
  | unknownStrategy
  | unknownField (name : String) (suggestion : Option String)
  | duplicateField (name : String)
  | missingField (name : String)
  | unexpectedForm (form : ArgumentForm)
  | unexpectedType (name : String)
  | openRange
  | noTransitions
  | sameEnds
  | unsupportedType
  | expectedLiteral (kind : Kind)
  | wrongSuffix (suffix : String) (kind : Kind)
  | invalidLiteral (kind : Kind) (cause : IntegerFault)
  | outOfRange (kind : Kind)
  /-- A state has no expression. -/
  | unknownState (spelling : String)
  /-- A guard is refused by itself. -/
  | guard (cause : ModelError)
  /-- The machine is refused when it is put together. -/
  | model (cause : Error)
  deriving DecidableEq

def Fault.message : Fault → String
  | .grammar cause => cause.message
  | .unknownArgument name => "unknown argument `" ++ name ++ "`"
  | .missingArgument name => "missing required `" ++ name ++ "` argument"
  | .integer cause => cause.message
  | .zeroDelta => "max_delta must be greater than zero"
  | .unknownStrategy => "strategy must be one of \"auto\", \"dense\" or \"sparse\""
  | .unknownField name none => "Unknown field: `" ++ name ++ "`"
  | .unknownField name (some suggestion) =>
    "Unknown field: `" ++ name ++ "`. Did you mean `" ++ suggestion ++ "`?"
  | .duplicateField name => "Duplicate field `" ++ name ++ "`"
  | .missingField name => "Missing field `" ++ name ++ "`"
  | .unexpectedForm form => "Unexpected meta-item format `" ++ form.name ++ "`"
  | .unexpectedType name => "Unexpected type `" ++ name ++ "`"
  | .openRange => "ranges must be inclusive and bounded: `start..=end`"
  | .noTransitions => "a machine needs at least one #[transition(from = .., to = ..)] attribute"
  | .sameEnds => "initial and exit state must be different"
  | .unsupportedType =>
    "unsupported token type: expected bool, char, a fixed-width integer, f32, f64, String or &str"
  | .expectedLiteral kind => "expected a `" ++ kind.name ++ "` literal"
  | .wrongSuffix suffix kind =>
    "literal suffix `" ++ suffix ++ "` does not match token type `" ++ kind.name ++ "`"
  | .invalidLiteral kind cause => "invalid `" ++ kind.name ++ "` literal: " ++ cause.message
  | .outOfRange kind => "`" ++ kind.name ++ "` literal is out of range"
  | .unknownState spelling => "unknown state `" ++ spelling ++ "`"
  | .guard cause => cause.message
  | .model cause => cause.message

end StateMachine
