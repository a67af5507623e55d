import StateMachine.Gallery
import StateMachine.Workshop
import StateMachine.Proofs.Switch
import StateMachine.Proofs.Layout
import StateMachine.Proofs.Strategy
import StateMachine.Proofs.Model
import StateMachine.Proofs.Validation
import StateMachine.Proofs.Draft
import StateMachine.Proofs.Numbering
import StateMachine.Proofs.Plan
import StateMachine.Proofs.Fingerprint
import StateMachine.Proofs.Code
import StateMachine.Proofs.Workshop
import StateMachine.Proofs.Sharing
import StateMachine.Proofs.Reachability
import StateMachine.Proofs.Acceptance
import StateMachine.Proofs.Stamp
import StateMachine.Proofs.Transparency
import StateMachine.Proofs.Rearrangement
import StateMachine.Proofs.Guard
import StateMachine.Proofs.Declaration
import StateMachine.Proofs.Replay
import StateMachine.Proofs.Compilation
import StateMachine.Proofs.Accounting
import StateMachine.Proofs.Unreachable
import StateMachine.Proofs.Absorption
import StateMachine.Proofs.Fleet
import StateMachine.Proofs.Rounding
import StateMachine.Proofs.Numeral
import StateMachine.Proofs.Narrowing
import StateMachine.Proofs.Literal
import StateMachine.Proofs.Units
