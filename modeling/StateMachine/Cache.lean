import StateMachine.Store

/-!
# Loaders and caches

A loader keeps what was loaded under a name, so that it is made only once. A cache does the same
and counts how often a value was there already and how often it had to be made.
-/

namespace StateMachine

/-- Values that are made once for each key. -/
abbrev Loader (κ : Type) (β : κ → Type) := Store κ β

def Loader.describe {κ : Type} {β : κ → Type} (l : Loader κ β) : String :=
  "Loader \x7b loaded: " ++ toString l.size ++ " \x7d"

/-- Values under keys, with counts of the requests. The counts start over after `UInt64.size` of
them. -/
structure Cache (κ : Type) (β : κ → Type) where
  store : Store κ β
  hits : UInt64
  /-- Requests whose value had to be made, whether that succeeded or not. -/
  misses : UInt64

namespace Cache

variable {κ : Type} {β : κ → Type}

def empty : Cache κ β := ⟨.empty, 0, 0⟩

def size (c : Cache κ β) : Nat := c.store.size

/-- Forgets all values; the counts stay. -/
def clear (c : Cache κ β) : Cache κ β := { c with store := .empty }

def describe (c : Cache κ β) : String :=
  "DispatcherCache \x7b stats: CacheStats \x7b hits: " ++ toString c.hits ++ ", misses: " ++
    toString c.misses ++ ", entries: " ++ toString c.size ++ " \x7d \x7d"

variable [DecidableEq κ]

def find? (c : Cache κ β) (key : κ) : Option (β key) := c.store.find? key

/-- The value under a key, made and kept if there is none. Making it may fail, which keeps nothing,
and may change the world around the cache. -/
def findOrMake {ε ω : Type} (c : Cache κ β) (key : κ) (make : ω → Except ε (β key) × ω)
    (world : ω) : Except ε (β key) × Cache κ β × ω :=
  match c.find? key with
  | some value => (.ok value, { c with hits := c.hits + 1 }, world)
  | none =>
    let missed := { c with misses := c.misses + 1 }
    match make world with
    | (.ok value, world') =>
      (.ok value, { missed with store := c.store.insertNew key value }, world')
    | (.error e, world') => (.error e, missed, world')

end Cache

end StateMachine
