import StateMachine.Error
import StateMachine.Event
import StateMachine.Symbol

/-!
# Switch maps

A map from symbols to payloads that is looked up by switch hash. Entries are gathered in buckets of
one hash each, in increasing order of the hash; inside a bucket symbols are told apart exactly. A
dense map adds a table with a slot for every hash between the first and the last bucket; a sparse
one has only the buckets. Both find the payload of the last entry whose symbol is the same.
-/

namespace StateMachine

/-- The entries of one hash, no two of them the same. -/
structure Bucket (k : Kind) (β : Type) where
  hash : Int32
  entries : List (Symbol k × β)

inductive Strategy
  /-- Dense if the hashes are close together. -/
  | auto
  | dense
  | sparse
  deriving DecidableEq

def Strategy.name : Strategy → String
  | .auto => "Auto"
  | .dense => "Dense"
  | .sparse => "Sparse"

inductive SwitchLayout
  | dense (min max : Int32)
  | sparse
  deriving DecidableEq

structure SwitchMap (k : Kind) (β : Type) where
  /-- The buckets, in increasing order of their hashes. -/
  buckets : List (Bucket k β)
  /-- For a dense map, the index of the bucket for each hash from the least one on. -/
  slots : Array (Option Nat)
  layout : SwitchLayout

variable {k : Kind} {β : Type}

/-! ### Buckets -/

namespace Bucket

def isCollision (b : Bucket k β) : Bool := 1 < b.entries.length

/-- Puts an entry in: the payload of the same symbol is replaced, else the entry comes last. -/
def put (b : Bucket k β) (x : Symbol k) (v : β) : Bucket k β :=
  if b.entries.any (·.1.same x) then
    { b with entries := b.entries.map (fun e => if e.1.same x then (e.1, v) else e) }
  else { b with entries := b.entries ++ [(x, v)] }

/-- The payload of a symbol that has the bucket's hash. If the hash decides alone, a single entry
needs no comparison. -/
def resolve (b : Bucket k β) (x : Symbol k) : Option β :=
  match k.comparison.hashIsExact, b.entries with
  | true, [e] => some e.2
  | _, es => (es.find? (·.1.same x)).map Prod.snd

end Bucket

/-- Puts an entry into the bucket of its hash, which is made in its place if it is missing. -/
def insertEntry (x : Symbol k) (v : β) : List (Bucket k β) → List (Bucket k β)
  | [] => [⟨x.hash, [(x, v)]⟩]
  | b :: bs =>
    if b.hash = x.hash then b.put x v :: bs
    else if x.hash < b.hash then ⟨x.hash, [(x, v)]⟩ :: b :: bs
    else b :: insertEntry x v bs

def hashBuckets (entries : List (Symbol k × β)) : List (Bucket k β) :=
  entries.foldl (fun bs e => insertEntry e.1 e.2 bs) []

def hashDistance (a b : Int32) : Nat := (b.toInt - a.toInt).toNat

/-- The distance between the first and the last hash. -/
def hashSpan (buckets : List (Bucket k β)) : Nat :=
  match buckets.head?, buckets.getLast? with
  | some a, some b => hashDistance a.hash b.hash
  | _, _ => 0

def hashGap : List (Bucket k β) → Nat
  | a :: b :: rest => max (hashDistance a.hash b.hash) (hashGap (b :: rest))
  | _ => 0

/-! ### Maps -/

namespace SwitchMap

/-- The largest number of slots of a dense map. -/
def maxSlots : Nat := 65536

/-- The table of a dense map: the bucket at index `i` takes the slot of its hash. -/
def slotTable (min : Int32) (width : Nat) (buckets : List (Bucket k β)) : Array (Option Nat) :=
  buckets.zipIdx.foldl
    (fun slots p => slots.setIfInBounds (hashDistance min p.1.hash) (some p.2))
    (Array.replicate width none)

def ofBuckets (buckets : List (Bucket k β)) (dense : Bool) : Except SwitchError (SwitchMap k β) :=
  match buckets.head?, buckets.getLast? with
  | some first, some last =>
    if dense then
      let width := hashSpan buckets + 1
      if maxSlots < width then .error (.tableTooLarge width maxSlots)
      else .ok ⟨buckets, slotTable first.hash width buckets, .dense first.hash last.hash⟩
    else .ok ⟨buckets, #[], .sparse⟩
  | _, _ => .error .empty

def dense (entries : List (Symbol k × β)) : Except SwitchError (SwitchMap k β) :=
  ofBuckets (hashBuckets entries) true

def sparse (entries : List (Symbol k × β)) : Except SwitchError (SwitchMap k β) :=
  ofBuckets (hashBuckets entries) false

/-- Whether a strategy lays buckets out densely, with the event that tells about the choice. -/
def choose (buckets : List (Bucket k β)) (maxDelta : UInt32) : Strategy → List Event × Bool
  | .dense =>
    let span := hashSpan buckets
    let fits := decide (span < maxSlots)
    (if fits then [] else [.wideSpan buckets.length span maxSlots], fits)
  | .sparse => ([], false)
  | .auto =>
    let span := hashSpan buckets
    let gap := hashGap buckets
    let fits := decide (max span gap ≤ maxDelta.toNat ∧ span < maxSlots)
    ([.selected buckets.length span gap maxDelta.toNat fits], fits)

/-- A map of the entries, laid out by a strategy. -/
def ofEntries (entries : List (Symbol k × β)) (maxDelta : UInt32) (strategy : Strategy) :
    Logged SwitchError (SwitchMap k β) :=
  if maxDelta = 0 then .fail .zeroDelta
  else
    let buckets := hashBuckets entries
    let (events, dense) := choose buckets maxDelta strategy
    ⟨events, ofBuckets buckets dense⟩

def size (m : SwitchMap k β) : Nat := (m.buckets.flatMap Bucket.entries).length

/-- The strategy that gives the layout of the map. -/
def strategy (m : SwitchMap k β) : Strategy :=
  match m.layout with
  | .dense _ _ => .dense
  | .sparse => .sparse

/-- The bucket of a hash. A sparse map is searched from the front. Since the hashes of a map that
was made from entries increase, a search that halves the buckets ends at the same one; this is
`SwitchMap.MadeFrom.halved_iff`. -/
def bucket? (m : SwitchMap k β) (h : Int32) : Option (Bucket k β) :=
  match m.layout with
  | .dense min _ =>
    if h < min then none
    else do
      let slot ← m.slots[hashDistance min h]?
      let i ← slot
      m.buckets[i]?
  | .sparse => m.buckets.find? (fun b => b.hash = h)

def find? (m : SwitchMap k β) (x : Symbol k) : Option β := do
  let b ← m.bucket? x.hash
  b.resolve x

/-- The hashes that a switch has to list, with their buckets: every slot of a dense map, holes
included, and exactly the buckets of a sparse one. -/
def cases (m : SwitchMap k β) : List (Int32 × Option (Bucket k β)) :=
  match m.layout with
  | .dense min _ =>
    m.slots.toList.zipIdx.map (fun p =>
      (Int32.ofInt (min.toInt + p.2), p.1.bind (fun i => m.buckets[i]?)))
  | .sparse => m.buckets.map (fun b => (b.hash, some b))

end SwitchMap

end StateMachine
