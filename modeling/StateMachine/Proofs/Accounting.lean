import Mathlib.Data.List.DropRight
import StateMachine.Proofs.Compilation

/-!
# What a cache counts and keeps

A cache is watched while it is used: whenever a value has to be made, it is recorded whether that
succeeded, and so is every clearing. The counts and the values of the cache can be read off the
uses and the record, in whatever order the cache was used: requests are counted once each, and what
is kept under a key is the first value that was made for it since the cache was last cleared.
-/

namespace StateMachine

variable {κ ω ε : Type} {β : κ → Type}

/-! ### Records -/

/-- What can happen to a cache. -/
inductive Incident (κ : Type) (β : κ → Type)
  | made (key : κ) (value : β key)
  | failed (key : κ)
  | cleared

namespace Incident

/-- Whether the cache was cleared. -/
def isCleared : Incident κ β → Bool
  | .cleared => true
  | _ => false

/-- The part of a record behind the last clearing. -/
def sinceCleared (record : List (Incident κ β)) : List (Incident κ β) :=
  record.rtakeWhile fun i => !i.isCleared

/-- The first value that was made for a key in a part of a record. -/
def FirstMade (key : κ) (v : β key) (part : List (Incident κ β)) : Prop :=
  ∃ earlier later, part = earlier ++ .made key v :: later ∧ ∀ v', .made key v' ∉ earlier

lemma sinceCleared_append_singleton (record : List (Incident κ β)) {i : Incident κ β}
    (h : i.isCleared = false) :
    sinceCleared (record ++ [i]) = sinceCleared record ++ [i] := by
  simp [sinceCleared, h]

lemma sinceCleared_append_cleared (record : List (Incident κ β)) :
    sinceCleared (record ++ [.cleared]) = [] := by
  simp [sinceCleared, isCleared]

variable [DecidableEq κ]

/-- The value, if one was made for a key. -/
def made? (key : κ) : Incident κ β → Option (β key)
  | .made key' v => if h : key' = key then some (h ▸ v) else none
  | _ => none

lemma made?_eq_some_iff {key : κ} {v : β key} {i : Incident κ β} :
    i.made? key = some v ↔ i = .made key v := by
  constructor
  · intro h
    cases i with
    | made key' v' =>
      rw [made?] at h
      split_ifs at h with heq
      subst heq
      cases h
      rfl
    | failed key' => cases h
    | cleared => cases h
  · rintro rfl
    simp [made?]

lemma findSome?_made?_eq_some_iff {key : κ} {v : β key} {part : List (Incident κ β)} :
    part.findSome? (made? key) = some v ↔ FirstMade key v part := by
  have hnone (i : Incident κ β) : i.made? key = none ↔ ∀ v', i ≠ .made key v' := by
    simp [Option.eq_none_iff_forall_ne_some, made?_eq_some_iff]
  rw [List.findSome?_eq_some_iff]
  constructor
  · rintro ⟨earlier, i, later, rfl, hi, hearlier⟩
    rw [made?_eq_some_iff] at hi
    subst hi
    exact ⟨earlier, later, rfl, fun v' hv' => (hnone _).mp (hearlier _ hv') v' rfl⟩
  · rintro ⟨earlier, later, rfl, hearlier⟩
    refine ⟨earlier, _, later, rfl, made?_eq_some_iff.mpr rfl, fun i hi => (hnone i).mpr ?_⟩
    rintro v' rfl
    exact hearlier v' hi

end Incident

/-! ### Uses -/

/-- What a cache can be used for. What is handed in to make a value sees the world around the
cache, but not the cache. -/
inductive Use (κ : Type) (β : κ → Type) (ε ω : Type)
  | request (key : κ) (make : ω → Except ε (β key) × ω)
  | find (key : κ)
  | count
  | clear

/-- Whether a value is requested. -/
def Use.isRequest : Use κ β ε ω → Bool
  | .request _ _ => true
  | _ => false

/-- A cache with the record of what happened to it, and the world around it. -/
structure Watched (κ : Type) (β : κ → Type) (ω : Type) where
  cache : Cache κ β
  record : List (Incident κ β)
  world : ω

/-- Makes a value and adds to the record whether that succeeded. -/
def recorded (key : κ) (make : ω → Except ε (β key) × ω) (before : List (Incident κ β) × ω) :
    Except ε (β key) × List (Incident κ β) × ω :=
  match make before.2 with
  | (.ok v, world) => (.ok v, before.1 ++ [.made key v], world)
  | (.error e, world) => (.error e, before.1 ++ [.failed key], world)

namespace Watched

open Incident

/-- Clears the cache. -/
def clear (d : Watched κ β ω) : Watched κ β ω :=
  { d with cache := d.cache.clear, record := d.record ++ [.cleared] }

variable [DecidableEq κ]

/-- Requests a value from the cache. -/
def request (d : Watched κ β ω) (key : κ) (make : ω → Except ε (β key) × ω) :
    Except ε (β key) × Watched κ β ω :=
  let (result, cache, record, world) :=
    d.cache.findOrMake key (recorded key make) (d.record, d.world)
  (result, ⟨cache, record, world⟩)

/-- Uses the cache. Finding a value and reading the counts leave everything as it is. -/
def serve (d : Watched κ β ω) : Use κ β ε ω → Watched κ β ω
  | .request key make => (d.request key make).2
  | .find _ => d
  | .count => d
  | .clear => d.clear

/-- An empty cache after a list of uses. -/
def after (us : List (Use κ β ε ω)) (world : ω) : Watched κ β ω :=
  us.foldl serve ⟨.empty, [], world⟩

variable {d : Watched κ β ω} {key : κ} {make : ω → Except ε (β key) × ω} {v : β key} {world : ω}

lemma find?_clear (d : Watched κ β ω) (key : κ) : d.clear.cache.find? key = none := rfl

lemma request_of_find? (h : d.cache.find? key = some v) :
    d.request key make =
      (.ok v, { d with cache := { d.cache with hits := d.cache.hits + 1 } }) := by
  rw [request, Cache.findOrMake_of_find? h]

lemma request_of_made (h : d.cache.find? key = none) (hmake : make d.world = (.ok v, world)) :
    d.request key make =
      (.ok v,
        { cache :=
            { d.cache with
              misses := d.cache.misses + 1
              store := d.cache.store.insertNew key v }
          record := d.record ++ [.made key v]
          world := world }) := by
  have hrecorded : recorded key make (d.record, d.world)
      = (.ok v, d.record ++ [.made key v], world) := by
    rw [recorded, hmake]
  rw [request, Cache.findOrMake_of_made h hrecorded]

lemma request_of_failed {e : ε} (h : d.cache.find? key = none)
    (hmake : make d.world = (.error e, world)) :
    d.request key make =
      (.error e,
        { cache := { d.cache with misses := d.cache.misses + 1 }
          record := d.record ++ [.failed key]
          world := world }) := by
  have hrecorded : recorded key make (d.record, d.world)
      = (.error e, d.record ++ [.failed key], world) := by
    rw [recorded, hmake]
  rw [request, Cache.findOrMake_of_failed h hrecorded]

/-- The counts and values of a cache are those of its uses and its record. Each count starts over
after `UInt64.size` requests, so it is a residue. -/
structure Accounted (d : Watched κ β ω) (us : List (Use κ β ε ω)) : Prop where
  counts : ∃ hits misses, hits + misses = us.countP Use.isRequest ∧
    d.cache.hits = .ofNat hits ∧ d.cache.misses = .ofNat misses
  values : ∀ key, d.cache.find? key = (sinceCleared d.record).findSome? (made? key)

namespace Accounted

variable {us : List (Use κ β ε ω)}

lemma request (h : d.Accounted us) (key : κ) (make : ω → Except ε (β key) × ω) :
    (d.request key make).2.Accounted (us ++ [.request key make]) := by
  obtain ⟨hits, misses, hcount, hhits, hmisses⟩ := h.counts
  have hcount' : (us ++ [Use.request key make]).countP Use.isRequest = hits + misses + 1 := by
    rw [List.countP_append, ← hcount]
    rfl
  have hmissed : ∃ hits misses,
      hits + misses = (us ++ [Use.request key make]).countP Use.isRequest ∧
      d.cache.hits = .ofNat hits ∧ d.cache.misses + 1 = .ofNat misses :=
    ⟨hits, misses + 1, by rw [hcount', Nat.add_assoc], hhits, by simp [hmisses]⟩
  obtain ⟨v, hfind⟩ | ⟨hfind, ⟨v, world, hmake⟩ | ⟨e, world, hmake⟩⟩ :=
    Cache.findOrMake_cases d.cache key make d.world
  · rw [request_of_find? hfind]
    refine ⟨⟨hits + 1, misses, ?_, by simp [hhits], hmisses⟩, h.values⟩
    rw [hcount', Nat.add_right_comm]
  · rw [request_of_made hfind hmake]
    refine ⟨hmissed, fun key' => ?_⟩
    -- nothing is kept under the key, so nothing was made for it since the last clearing
    rw [sinceCleared_append_singleton d.record rfl, List.findSome?_append, ← h.values]
    by_cases heq : key = key'
    · subst heq
      rw [hfind, Option.none_or]
      exact (Store.find?_insertNew hfind).trans (by simp [made?])
    · refine (Store.find?_insertNew_of_ne heq).trans ?_
      simp [made?, heq, Cache.find?]
  · rw [request_of_failed hfind hmake]
    refine ⟨hmissed, fun key' => ?_⟩
    rw [sinceCleared_append_singleton d.record rfl, List.findSome?_append, ← h.values]
    simp [made?, Cache.find?]

lemma clear (h : d.Accounted us) : d.clear.Accounted (us ++ [.clear]) where
  counts := by
    rw [List.countP_append]
    exact h.counts
  values key := by
    rw [Watched.clear, sinceCleared_append_cleared]
    rfl

/-- The counts add up to the number of requests, as words, and as numbers before they start over. -/
lemma hits_add_misses (h : d.Accounted us) :
    d.cache.hits + d.cache.misses = .ofNat (us.countP Use.isRequest) ∧
      (us.countP Use.isRequest < UInt64.size →
        d.cache.hits.toNat + d.cache.misses.toNat = us.countP Use.isRequest) := by
  obtain ⟨hits, misses, hcount, hhits, hmisses⟩ := h.counts
  rw [hhits, hmisses, ← hcount]
  refine ⟨(UInt64.ofNat_add hits misses).symm, fun hlt => ?_⟩
  rw [UInt64.toNat_ofNat_of_lt' (by omega), UInt64.toNat_ofNat_of_lt' (by omega)]

lemma serve (h : d.Accounted us) (u : Use κ β ε ω) : (d.serve u).Accounted (us ++ [u]) := by
  cases u with
  | request key make => exact h.request key make
  | find key => exact ⟨by simpa [Use.isRequest, Watched.serve] using h.counts, h.values⟩
  | count => exact ⟨by simpa [Use.isRequest, Watched.serve] using h.counts, h.values⟩
  | clear => exact h.clear

end Accounted

lemma accounted_after (us : List (Use κ β ε ω)) (world : ω) : (after us world).Accounted us := by
  induction us using List.reverseRecOn with
  | nil => exact ⟨⟨0, 0, rfl, rfl, rfl⟩, fun _ => rfl⟩
  | append_singleton us u ih =>
    rw [after, List.foldl_append]
    exact ih.serve u

end Watched

/-! ### Requests for dispatchers -/

section

variable {ι : Type} [LabelTypes ι] [DecidableEq ι] {w : Workshop ι} {i : Nat} {st : Station ι}

/-- A workshop asks a cache under the types and the fingerprint of a model. -/
lemma Workshop.exists_findOrCompile (hst : w.stations[i]? = some st) {c : Nat}
    {cache : DispatcherCache ι} (hcache : w.caches[c]? = some cache) (j : Job ι)
    (make : Bench ι → Except Error j.key.Item × Bench ι) :
    let found := cache.findOrMake ⟨j.labels, j.symbols, j.model.fingerprint⟩
      (Bench.publishing j.model.fingerprint make) (w.bench st)
    ∃ a, w.findOrCompile c i j make = some a ∧ a.result = found.1 ∧
      a.workshop.caches = w.caches.set c found.2.1 := by
  simp only [findOrCompile, hst, hcache, Option.bind_eq_bind, Option.bind_some]
  exact ⟨_, rfl, rfl, rfl⟩

/-- A kind that is not supported is refused, and everything stays as it is. -/
lemma Workshop.compile_of_lacks (hst : w.stations[i]? = some st) {j : Job ι}
    (h : st.compiler.Lacks j.symbols.kind) :
    w.compile i j = some ⟨.error (.unsupportedKind j.symbols.kind), [], w⟩ := by
  simp [compile, hst, Compiler.checkKind_eq_error_iff.mpr ⟨h, rfl⟩]

end

/-- After any uses of a cache, in any order and for keys and values of any types: each request was
counted once, and what is kept under a key is the first value made for it since the last clearing.
A request is a hit and makes nothing if there is a value; else it is a miss, and what it makes is
kept if that succeeds. Other keys are not touched, except by clearing, which keeps the counts.
Workshops ask their caches for dispatchers under the types and the fingerprint of a model, whatever
types of labels there are, and a compiler that lacks the kind of a model leaves all caches as they
are. -/
theorem cache_accounts_for_requests [DecidableEq κ] (us : List (Use κ β ε ω)) (world : ω) :
    let d := Watched.after us world
    (d.cache.hits + d.cache.misses = .ofNat (us.countP Use.isRequest) ∧
      (us.countP Use.isRequest < UInt64.size →
        d.cache.hits.toNat + d.cache.misses.toNat = us.countP Use.isRequest)) ∧
    (∀ key v, d.cache.find? key = some v ↔
      Incident.FirstMade key v (Incident.sinceCleared d.record)) ∧
    (∀ key make,
      (∀ v, d.cache.find? key = some v → d.request key make =
        ((.ok v : Except ε _), { d with cache := { d.cache with hits := d.cache.hits + 1 } })) ∧
      (∀ v world', d.cache.find? key = none → make d.world = ((.ok v : Except ε _), world') →
        ∃ c : Cache κ β,
          d.request key make = (.ok v, ⟨c, d.record ++ [.made key v], world'⟩) ∧
          c.hits = d.cache.hits ∧ c.misses = d.cache.misses + 1 ∧ c.find? key = some v ∧
          ∀ key', key ≠ key' → c.find? key' = d.cache.find? key') ∧
      ∀ e world', d.cache.find? key = none → make d.world = (.error e, world') →
        d.request key make =
          (.error e,
            ⟨{ d.cache with misses := d.cache.misses + 1 }, d.record ++ [.failed key], world'⟩)) ∧
    (d.clear.cache.hits = d.cache.hits ∧ d.clear.cache.misses = d.cache.misses ∧
      ∀ key, d.clear.cache.find? key = none) ∧
    ∀ {ι : Type} [LabelTypes ι] [DecidableEq ι] (w : Workshop ι) (i : Nat) (st : Station ι)
      (j : Job ι), w.stations[i]? = some st →
        (∀ c cache make, w.caches[c]? = some cache →
          let found := cache.findOrMake ⟨j.labels, j.symbols, j.model.fingerprint⟩
            (Bench.publishing j.model.fingerprint make) (w.bench st)
          ∃ a, w.findOrCompile c i j make = some a ∧ a.result = found.1 ∧
            a.workshop.caches = w.caches.set c found.2.1) ∧
        (st.compiler.Lacks j.symbols.kind →
          w.compile i j = some ⟨.error (.unsupportedKind j.symbols.kind), [], w⟩) := by
  intro d
  have hd : d.Accounted us := Watched.accounted_after us world
  refine ⟨hd.hits_add_misses, fun key v => ?_, fun key make => ⟨fun v hfind => ?_, ?_, ?_⟩,
    ⟨rfl, rfl, d.find?_clear⟩,
    fun w i st j hst => ⟨fun c cache make hcache => ?_, fun hlacks => ?_⟩⟩
  · rw [hd.values, Incident.findSome?_made?_eq_some_iff]
  · exact Watched.request_of_find? hfind
  · intro v world' hfind hmake
    refine ⟨_, Watched.request_of_made hfind hmake, rfl, rfl, Store.find?_insertNew hfind, ?_⟩
    exact fun key' hne => Store.find?_insertNew_of_ne hne
  · intro e world' hfind hmake
    exact Watched.request_of_failed hfind hmake
  · exact Workshop.exists_findOrCompile hst hcache j make
  · exact Workshop.compile_of_lacks hst hlacks

end StateMachine
