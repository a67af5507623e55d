/-!
# Associations

Finite maps as lists of entries. A key has at most one value, and the order of the entries is that
of their insertion. What an operation does to a map is said by the values found afterwards.
-/

namespace StateMachine

/-- Values under keys. -/
structure Assoc (κ ν : Type) where
  entries : List (κ × ν)
  nodup : (entries.map Prod.fst).Nodup

namespace Assoc

variable {κ ν : Type}

def empty : Assoc κ ν := ⟨[], List.Pairwise.nil⟩

def map (a : Assoc κ ν) (f : ν → ν) : Assoc κ ν :=
  ⟨a.entries.map (fun p => (p.1, f p.2)), by simpa [Function.comp_def] using a.nodup⟩

variable [DecidableEq κ]

def find? (a : Assoc κ ν) (key : κ) : Option ν :=
  (a.entries.find? (fun p => p.1 = key)).map Prod.snd

def erase (a : Assoc κ ν) (key : κ) : Assoc κ ν :=
  ⟨a.entries.filter (fun p => p.1 ≠ key), a.nodup.sublist (List.filter_sublist.map _)⟩

/-- Changes the value under a key, if there is one. -/
def update (a : Assoc κ ν) (key : κ) (f : ν → ν) : Assoc κ ν :=
  ⟨a.entries.map (fun p => if p.1 = key then (p.1, f p.2) else p), by
    have hfst : (Prod.fst ∘ fun p : κ × ν => if p.1 = key then (p.1, f p.2) else p) = Prod.fst := by
      funext p
      simp only [Function.comp_apply]
      split <;> rfl
    rw [List.map_map, hfst]
    exact a.nodup⟩

/-- Gives a key that has no value a first one. -/
def ensure (a : Assoc κ ν) (key : κ) (value : ν) : Assoc κ ν :=
  if h : key ∈ a.entries.map Prod.fst then a
  else ⟨a.entries ++ [(key, value)], by
    rw [List.map_append, List.nodup_append]
    refine ⟨a.nodup, by simp, fun k hk k' hk' => ?_⟩
    simp only [List.map_cons, List.map_nil, List.mem_singleton] at hk'
    rintro rfl
    exact h (hk' ▸ hk)⟩

@[simp] theorem find?_empty (key : κ) : (empty : Assoc κ ν).find? key = none := rfl

@[simp] theorem find?_map (a : Assoc κ ν) (f : ν → ν) (key : κ) :
    (a.map f).find? key = (a.find? key).map f := by
  simp [find?, map, List.find?_map, Function.comp_def]

@[simp] theorem find?_erase (a : Assoc κ ν) (key key' : κ) :
    (a.erase key).find? key' = if key' = key then none else a.find? key' := by
  simp only [find?, erase, List.find?_filter]
  split
  · next h =>
    subst h
    simp
  · next h =>
    congr 2
    funext p
    by_cases hp : p.1 = key'
    · simp [hp, h]
    · simp [hp]

@[simp] theorem find?_update (a : Assoc κ ν) (key key' : κ) (f : ν → ν) :
    (a.update key f).find? key' = if key' = key then (a.find? key').map f else a.find? key' := by
  have hkey : (fun p : κ × ν => decide ((if p.1 = key then (p.1, f p.2) else p).1 = key'))
      = fun p => decide (p.1 = key') := by
    funext p
    split <;> rfl
  simp only [find?, update, List.find?_map, Function.comp_def, hkey]
  cases hfind : a.entries.find? (fun p => decide (p.1 = key')) with
  | none => simp
  | some p =>
    have hp : p.1 = key' := by simpa using List.find?_some hfind
    simp only [Option.map_some, hp]
    split <;> rfl

theorem find?_eq_none {a : Assoc κ ν} {key : κ} (h : key ∉ a.entries.map Prod.fst) :
    a.find? key = none := by
  rw [find?, Option.map_eq_none_iff, List.find?_eq_none]
  intro p hp hkey
  exact h (List.mem_map.mpr ⟨p, hp, by simpa using hkey⟩)

theorem exists_find? {a : Assoc κ ν} {key : κ} (h : key ∈ a.entries.map Prod.fst) :
    ∃ value, a.find? key = some value := by
  obtain ⟨p, hp, hkey⟩ := List.mem_map.mp h
  have hsome : (a.entries.find? (fun p => p.1 = key)).isSome :=
    List.find?_isSome.mpr ⟨p, hp, by simp [hkey]⟩
  obtain ⟨q, hq⟩ := Option.isSome_iff_exists.mp hsome
  exact ⟨q.2, by rw [find?, hq]; rfl⟩

@[simp] theorem find?_ensure (a : Assoc κ ν) (key key' : κ) (value : ν) :
    (a.ensure key value).find? key'
      = if key' = key then some ((a.find? key').getD value) else a.find? key' := by
  rw [ensure]
  split
  · next h =>
    obtain ⟨v, hv⟩ := exists_find? h
    split
    · next heq =>
      rw [heq, hv]
      rfl
    · rfl
  · next h =>
    by_cases heq : key' = key
    · subst heq
      have hnone := find?_eq_none h
      rw [find?, Option.map_eq_none_iff] at hnone
      simp [find?, hnone]
    · have hne : ¬ key = key' := fun h => heq h.symm
      simp [find?, heq, hne]

end Assoc

end StateMachine
