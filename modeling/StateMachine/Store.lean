/-!
# Stores

A store keeps values under keys whose type may depend on the key. What is kept under a key is
never replaced: the first value wins.
-/

namespace StateMachine

/-- Values under keys, in the order in which they were added. -/
structure Store (κ : Type) (β : κ → Type) where
  entries : List ((key : κ) × β key)

namespace Store

variable {κ : Type} {β : κ → Type}

def empty : Store κ β := ⟨[]⟩

def size (s : Store κ β) : Nat := s.entries.length

variable [DecidableEq κ]

def lookup (key : κ) : List ((key : κ) × β key) → Option (β key)
  | [] => none
  | ⟨key', value⟩ :: rest => if h : key' = key then some (h ▸ value) else lookup key rest

def find? (s : Store κ β) (key : κ) : Option (β key) := lookup key s.entries

/-- Keeps a value under a key that has none yet. -/
def insertNew (s : Store κ β) (key : κ) (value : β key) : Store κ β :=
  match s.find? key with
  | some _ => s
  | none => ⟨s.entries ++ [⟨key, value⟩]⟩

/-- The value under a key, made and kept if there is none. Making it may fail, which keeps nothing,
and may change the world around the store. -/
def findOrMake {ε ω : Type} (s : Store κ β) (key : κ) (make : ω → Except ε (β key) × ω)
    (world : ω) : Except ε (β key) × Store κ β × ω :=
  match s.find? key with
  | some value => (.ok value, s, world)
  | none =>
    match make world with
    | (.ok value, world') => (.ok value, s.insertNew key value, world')
    | (.error e, world') => (.error e, s, world')

end Store

end StateMachine
