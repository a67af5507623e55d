import StateMachine.Digest
import StateMachine.Text.Quoted

/-!
# State labels

The values that name states. They are compared for equality, and shown in messages and
fingerprints. Labels of several types can live side by side; the types are then known by an index.
-/

namespace StateMachine

/-- Values that can be shown as the name of a state, in messages and fingerprints. -/
class Label (σ : Type) where
  text : σ → String

instance : Label Int32 := ⟨fun n => toString n.toInt⟩

instance : Label Int64 := ⟨fun n => toString n.toInt⟩

instance : Label String := ⟨Text.quoteString⟩

/-- Types of labels that live side by side, by an index. -/
class LabelTypes (ι : Type) where
  Carrier : ι → Type
  decEq : (t : ι) → DecidableEq (Carrier t)
  label : (t : ι) → Label (Carrier t)
  /-- What routines are named by, made from a fingerprint and the labels by number. Different ones
  may have the same digest. -/
  digest : (t : ι) → String → List (Carrier t) → UInt64

instance {ι : Type} [LabelTypes ι] (t : ι) : DecidableEq (LabelTypes.Carrier t) :=
  LabelTypes.decEq t

instance {ι : Type} [LabelTypes ι] (t : ι) : Label (LabelTypes.Carrier t) := LabelTypes.label t

/-- The types of labels in use: two widths of numbers, and texts. -/
inductive LabelType
  | i32
  | i64
  | str
  deriving DecidableEq

namespace LabelType

@[reducible] def Carrier : LabelType → Type
  | .i32 => Int32
  | .i64 => Int64
  | .str => String

instance instDecidableEqCarrier : (t : LabelType) → DecidableEq t.Carrier
  | .i32 => inferInstanceAs (DecidableEq Int32)
  | .i64 => inferInstanceAs (DecidableEq Int64)
  | .str => inferInstanceAs (DecidableEq String)

instance instLabelCarrier : (t : LabelType) → Label t.Carrier
  | .i32 => inferInstanceAs (Label Int32)
  | .i64 => inferInstanceAs (Label Int64)
  | .str => inferInstanceAs (Label String)

/-- What labels add to a digest: numbers one word for all of them, texts words of their own. -/
def words : (t : LabelType) → List t.Carrier → List UInt64
  | .i32, ns => [Digest.ofBytes (ns.flatMap fun n => Digest.bytes 4 n.toUInt32.toUInt64)]
  | .i64, ns => [Digest.ofBytes (ns.flatMap fun n => Digest.bytes 8 n.toUInt64)]
  | .str, ss => ss.flatMap Digest.text

instance : LabelTypes LabelType where
  Carrier := Carrier
  decEq := instDecidableEqCarrier
  label := instLabelCarrier
  digest t fingerprint labels :=
    Digest.ofWords (Digest.text fingerprint ++ .ofNat labels.length :: t.words labels)

end LabelType

end StateMachine
