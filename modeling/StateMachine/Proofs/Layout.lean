import StateMachine.Proofs.Switch

/-!
# How switch maps are laid out

However a switch map is made, its buckets are sorted by hash and keep one entry for each class of
keys that are the same. The table of a dense map has a slot for every hash from the first bucket to
the last one, and a slot names a bucket exactly if it is the slot of the bucket's hash. So the cases
of a map are its hashes in order, each with its bucket, or with none for a hole of the table.
-/

namespace StateMachine

variable {k : Kind} {β : Type}

/-! ### Entries of buckets -/

/-- Where the hash decides alone, no two keys share it. -/
lemma Bucket.WellFormed.length_entries {b : Bucket k β} (hb : b.WellFormed)
    (hk : k.comparison = .identity) : b.entries.length = 1 := by
  rcases b with ⟨hash, _ | ⟨e, _ | ⟨e', es⟩⟩⟩
  · exact absurd rfl hb.nonempty
  · rfl
  · have hsame : e.1.same e'.1 = true := by
      apply Symbol.same_of_hash_eq (by simp [hk, Comparison.hashIsExact])
      rw [hb.hash_eq e (by simp), hb.hash_eq e' (by simp)]
    have hdistinct := (List.pairwise_cons.mp hb.distinct).1 e' (by simp)
    simp [hsame] at hdistinct

namespace WellFormedBuckets

variable {bs : List (Bucket k β)}

/-- Keys differ inside a bucket, and keys of two buckets differ in their hashes. -/
lemma pairwise_entries (hbs : WellFormedBuckets bs) :
    (bs.flatMap Bucket.entries).Pairwise fun e e' => e.1.same e'.1 = false := by
  apply List.pairwise_flatMap.mpr
  refine ⟨fun b hb => (hbs.wellFormed b hb).distinct, ?_⟩
  apply hbs.sorted.imp_of_mem
  intro b b' hb hb' hlt e he e' he'
  by_contra hsame
  have hhash : e.1.hash = e'.1.hash := Symbol.hash_eq_of_same (by simpa using hsame)
  rw [(hbs.wellFormed b hb).hash_eq e he, (hbs.wellFormed b' hb').hash_eq e' he'] at hhash
  exact Int32.lt_irrefl (hhash ▸ hlt)

lemma isSome_bucketPayload?_iff (hbs : WellFormedBuckets bs) {x : Symbol k} :
    (bucketPayload? bs x).isSome = true ↔
      ∃ e ∈ bs.flatMap Bucket.entries, e.1.same x = true := by
  constructor
  · intro h
    obtain ⟨v, hv⟩ := Option.isSome_iff_exists.mp h
    obtain ⟨b, hb, hpayload⟩ := Option.bind_eq_some_iff.mp hv
    obtain ⟨e, he, -⟩ := Option.map_eq_some_iff.mp hpayload
    refine ⟨e, ?_, by simpa using List.find?_some he⟩
    exact List.mem_flatMap.mpr ⟨b, List.mem_of_find?_eq_some hb, List.mem_of_find?_eq_some he⟩
  · rintro ⟨e, he, hsame⟩
    obtain ⟨b, hb, he⟩ := List.mem_flatMap.mp he
    have hhash : b.hash = x.hash := by
      rw [← (hbs.wellFormed b hb).hash_eq e he, Symbol.hash_eq_of_same hsame]
    rw [bucketPayload?, ← hhash, SwitchMap.find?_hash_of_mem hbs.sorted hb]
    simp only [Option.bind_some, Bucket.payload?, Option.isSome_map, List.find?_isSome]
    exact ⟨e, he, hsame⟩

end WellFormedBuckets

/-- Gathering entries into buckets neither loses a key nor makes one up. -/
lemma exists_key_hashBuckets_iff {entries : List (Symbol k × β)} {x : Symbol k} :
    (∃ e ∈ (hashBuckets entries).flatMap Bucket.entries, e.1.same x = true) ↔
      ∃ e ∈ entries, e.1.same x = true := by
  rw [← (wellFormedBuckets_hashBuckets entries).isSome_bucketPayload?_iff,
    bucketPayload?_hashBuckets, Option.isSome_iff_ne_none, Ne, lastPayload?_eq_none_iff]
  simp

/-! ### Tables -/

lemma hashDistance_ofInt {min : Int32} {d : Nat} (hd : min.toInt + d ≤ Int32.maxValue.toInt) :
    hashDistance min (Int32.ofInt (min.toInt + d)) = d := by
  have hmin := min.le_toInt
  have hmax : Int32.maxValue.toInt = 2 ^ 31 - 1 := rfl
  rw [hashDistance, Int32.toInt_ofInt_of_le (by omega) (by omega)]
  omega

namespace SwitchMap

lemma size_slotTable (min : Int32) (width : Nat) (bs : List (Bucket k β)) :
    (slotTable min width bs).size = width := by
  have hfold : ∀ (l : List (Bucket k β × Nat)) (slots : Array (Option Nat)),
      (l.foldl (fun slots p => slots.setIfInBounds (hashDistance min p.1.hash) (some p.2))
        slots).size = slots.size := by
    intro l
    induction l with
    | nil => exact fun _ => rfl
    | cons p l ih => exact fun slots => by rw [List.foldl_cons, ih, Array.size_setIfInBounds]
  rw [slotTable, hfold, Array.size_replicate]

section

variable {bs : List (Bucket k β)} (hs : bs.Pairwise fun b b' => b.hash < b'.hash)
  {first last : Bucket k β} (hfirst : bs.head? = some first) (hlast : bs.getLast? = some last)

include hs hfirst hlast

/-- A slot names the bucket whose hash it stands for, and no other. -/
lemma getElem?_slotTable_eq_some_iff {i j : Nat} :
    (slotTable first.hash (hashSpan bs + 1) bs)[i]? = some (some j) ↔
      ∃ b, bs[j]? = some b ∧ b.hash.toInt = first.hash.toInt + i := by
  have hbounds := bounds_of_sorted hs hfirst hlast
  have hmin : ∀ b ∈ bs, first.hash.toInt ≤ b.hash.toInt := fun b hb => (hbounds b hb).1
  have hdistance : ∀ b ∈ bs,
      (b.hash.toInt = first.hash.toInt + i ↔ hashDistance first.hash b.hash = i) := by
    intro b hb
    have hle := hmin b hb
    rw [hashDistance]
    omega
  constructor
  · intro hslot
    by_cases hi : ∃ b ∈ bs, hashDistance first.hash b.hash = i
    · obtain ⟨b, hb, hbi⟩ := hi
      obtain ⟨j', hj'⟩ := List.mem_iff_getElem?.mp hb
      have hnamed := getElem?_slotTable hs hmin hj' (hashDistance_lt_width hs hfirst hlast hb)
      rw [hbi, hslot] at hnamed
      cases hnamed
      exact ⟨b, hj', (hdistance b hb).mpr hbi⟩
    · -- a hole keeps what it was made with
      rw [slotTable, getElem?_setSlots_of_forall_ne, Array.getElem?_replicate] at hslot
      · split_ifs at hslot
        cases hslot
      · intro p hp hpi
        exact hi ⟨p.1, List.fst_mem_of_mem_zipIdx hp, hpi⟩
  · rintro ⟨b, hj, hhash⟩
    have hb := List.mem_of_getElem? hj
    rw [← (hdistance b hb).mp hhash]
    exact getElem?_slotTable hs hmin hj (hashDistance_lt_width hs hfirst hlast hb)

/-- There are no more buckets than hashes between the first and the last one. -/
lemma length_le_width : bs.length ≤ hashSpan bs + 1 := by
  have hnodup : (bs.map fun b => hashDistance first.hash b.hash).Nodup := by
    apply List.pairwise_map.mpr
    apply hs.imp_of_mem
    intro b b' hb hb' hlt heq
    have hle := (bounds_of_sorted hs hfirst hlast b hb).1
    have hlt' := toInt_lt_of_lt hlt
    simp only [hashDistance] at heq
    omega
  have hsubset :
      (bs.map fun b => hashDistance first.hash b.hash) ⊆ List.range (hashSpan bs + 1) := by
    intro d hd
    obtain ⟨b, hb, rfl⟩ := List.mem_map.mp hd
    exact List.mem_range.mpr (hashDistance_lt_width hs hfirst hlast hb)
  simpa using (hnodup.subperm hsubset).length_le

end

/-! ### Maps -/

/-- What the table of a dense map holds, for the hashes from `min` to `max`. -/
structure Tabulated (m : SwitchMap k β) (min max : Int32) : Prop where
  first : m.buckets.head?.map Bucket.hash = some min
  last : m.buckets.getLast?.map Bucket.hash = some max
  size : (m.slots.size : Int) = max.toInt - min.toInt + 1
  /-- There are few buckets, with small numbers. -/
  length_le : m.buckets.length ≤ m.slots.size ∧ m.slots.size ≤ maxSlots
  /-- A slot names the bucket of its hash. -/
  slot_iff : ∀ i j : Nat, m.slots[i]? = some (some j) ↔
    ∃ b, m.buckets[j]? = some b ∧ b.hash.toInt = min.toInt + i
  /-- The cases have the hashes of the slots, in order. -/
  hashes : m.cases.map (fun c => c.1.toInt)
    = (List.range m.slots.size).map fun i : Nat => min.toInt + i
  /-- A case has the bucket of its hash, if there is one. -/
  bucket_eq : ∀ c ∈ m.cases, c.2 = m.buckets.find? fun b => b.hash = c.1

section

variable {bs : List (Bucket k β)} {slots : Array (Option Nat)} {min max : Int32}
  (hwidth : min.toInt + slots.size ≤ Int32.maxValue.toInt + 1)

include hwidth

/-- The hashes of a table do not wrap around. -/
lemma hashes_cases :
    (⟨bs, slots, .dense min max⟩ : SwitchMap k β).cases.map (fun c => c.1.toInt)
      = (List.range slots.size).map fun i : Nat => min.toInt + i := by
  have hindices : slots.toList.zipIdx.map Prod.snd = List.range slots.size := by
    rw [List.zipIdx_map_snd, Array.length_toList, List.range_eq_range']
  rw [cases, ← hindices, List.map_map, List.map_map]
  apply List.map_congr_left
  intro p hp
  have hlt : p.2 < slots.size := by simpa using (List.mem_zipIdx hp).2.1
  have hmin := min.le_toInt
  have hmax : Int32.maxValue.toInt = 2 ^ 31 - 1 := rfl
  exact Int32.toInt_ofInt_of_le (by omega) (by omega)

/-- A case is what is found under its hash. -/
lemma snd_eq_bucket?_of_mem_cases {c : Int32 × Option (Bucket k β)}
    (hc : c ∈ (⟨bs, slots, .dense min max⟩ : SwitchMap k β).cases) :
    c.2 = (⟨bs, slots, .dense min max⟩ : SwitchMap k β).bucket? c.1 := by
  obtain ⟨⟨slot, i⟩, hp, rfl⟩ := List.mem_map.mp hc
  have hslot : slots[i]? = some slot := by
    rw [← Array.getElem?_toList]
    exact List.mem_zipIdx_iff_getElem?.mp hp
  have hlt : i < slots.size := by simpa using (List.mem_zipIdx hp).2.1
  have hmin := min.le_toInt
  have hmax : Int32.maxValue.toInt = 2 ^ 31 - 1 := rfl
  have hge : ¬ Int32.ofInt (min.toInt + i) < min := by
    rw [Int32.lt_iff_toInt_lt, Int32.toInt_ofInt_of_le (by omega) (by omega)]
    omega
  simp only [bucket?]
  rw [if_neg hge, hashDistance_ofInt (by omega), hslot]
  rfl

end

lemma MadeFrom.exists_ofBuckets {entries : List (Symbol k × β)} {m : SwitchMap k β}
    (h : m.MadeFrom entries) : ∃ dense, ofBuckets (hashBuckets entries) dense = .ok m := by
  cases h with
  | dense h => exact ⟨true, h⟩
  | sparse h => exact ⟨false, h⟩
  | chosen maxDelta strategy h => exact ofEntries_eq_ok h

lemma tabulated_of_ofBuckets {bs : List (Bucket k β)}
    (hs : bs.Pairwise fun b b' => b.hash < b'.hash) {dense : Bool} {m : SwitchMap k β}
    (h : ofBuckets bs dense = .ok m) {min max : Int32} (hlayout : m.layout = .dense min max) :
    m.Tabulated min max := by
  have hbucket := bucket?_eq_find? hs h
  obtain ⟨first, last, hfirst, hlast, ⟨-, rfl⟩ | ⟨-, hspan, rfl⟩⟩ := ofBuckets_eq_ok h
  · cases hlayout
  · cases hlayout
    have hsize := size_slotTable first.hash (hashSpan bs + 1) bs
    have hbounds := bounds_of_sorted hs hfirst hlast last (List.mem_of_getLast? hlast)
    have hwidth : ((hashSpan bs + 1 : Nat) : Int) = last.hash.toInt - first.hash.toInt + 1 := by
      simp only [hashSpan, hfirst, hlast, hashDistance]
      omega
    have hfits : first.hash.toInt + (slotTable first.hash (hashSpan bs + 1) bs).size
        ≤ Int32.maxValue.toInt + 1 := by
      have hmax : last.hash.toInt ≤ Int32.maxValue.toInt := last.hash.toInt_le
      rw [hsize]
      omega
    refine ⟨?_, ?_, ?_, ⟨?_, ?_⟩, fun i j => ?_, ?_, fun c hc => ?_⟩
    · simp [hfirst]
    · simp [hlast]
    · rw [hsize, hwidth]
    · rw [hsize]
      exact length_le_width hs hfirst hlast
    · rw [hsize]
      omega
    · exact getElem?_slotTable_eq_some_iff hs hfirst hlast
    · exact hashes_cases hfits
    · rw [snd_eq_bucket?_of_mem_cases hfits hc, hbucket]

lemma MadeFrom.buckets_eq {entries : List (Symbol k × β)} {m : SwitchMap k β}
    (h : m.MadeFrom entries) : m.buckets = hashBuckets entries := by
  obtain ⟨dense, hmade⟩ := h.exists_ofBuckets
  obtain ⟨first, last, -, -, ⟨-, rfl⟩ | ⟨-, -, rfl⟩⟩ := ofBuckets_eq_ok hmade <;> rfl

/-- What a search that halves the buckets may end with: a bucket of the hash, or nothing, if the
hash belongs between two neighbours. -/
inductive Halved (bs : List (Bucket k β)) (x : Int32) : Option (Bucket k β) → Prop
  | found {i : Nat} {b : Bucket k β} (hb : bs[i]? = some b) (hx : b.hash = x) : Halved bs x (some b)
  | missing (i : Nat) (hlt : ∀ b ∈ bs.take i, b.hash < x) (hgt : ∀ b ∈ bs.drop i, x < b.hash) :
    Halved bs x none

/-- A hash that no sorted bucket has belongs somewhere between them. -/
lemma exists_gap {bs : List (Bucket k β)} (hs : bs.Pairwise fun b b' => b.hash < b'.hash)
    {x : Int32} (hx : ∀ b ∈ bs, b.hash ≠ x) :
    ∃ i, (∀ b ∈ bs.take i, b.hash < x) ∧ ∀ b ∈ bs.drop i, x < b.hash := by
  induction bs with
  | nil => exact ⟨0, by simp, by simp⟩
  | cons b bs ih =>
    obtain ⟨hfirst, hs⟩ := List.pairwise_cons.mp hs
    obtain ⟨hb, hbs⟩ := List.forall_mem_cons.mp hx
    by_cases hlt : b.hash < x
    · obtain ⟨i, htake, hdrop⟩ := ih hs hbs
      exact ⟨i + 1, List.forall_mem_cons.mpr ⟨hlt, htake⟩, hdrop⟩
    · have hgt : x < b.hash := by
        rw [Int32.lt_iff_toInt_lt] at hlt ⊢
        have hne : b.hash.toInt ≠ x.toInt := fun h => hb (Int32.toInt_inj.mp h)
        omega
      refine ⟨0, by simp, List.forall_mem_cons.mpr ⟨hgt, fun b' hb' => ?_⟩⟩
      exact Int32.lt_trans hgt (hfirst b' hb')

/-- In the sorted buckets of a map, the bucket of a hash is what a search that halves the buckets
ends with. -/
lemma MadeFrom.halved_iff {entries : List (Symbol k × β)} {m : SwitchMap k β}
    (h : m.MadeFrom entries) {x : Int32} {r : Option (Bucket k β)} :
    Halved m.buckets x r ↔ m.bucket? x = r := by
  have hs := (wellFormedBuckets_hashBuckets entries).sorted
  obtain ⟨dense, hmade⟩ := h.exists_ofBuckets
  rw [bucket?_eq_find? hs hmade, h.buckets_eq]
  constructor
  · rintro (⟨hb, rfl⟩ | ⟨i, hlt, hgt⟩)
    · exact find?_hash_of_mem hs (List.mem_of_getElem? hb)
    · apply List.find?_eq_none.mpr
      intro b hb heq
      rw [decide_eq_true_eq] at heq
      rw [← List.take_append_drop i (hashBuckets entries)] at hb
      rcases List.mem_append.mp hb with hb | hb
      · exact Int32.lt_irrefl (heq ▸ hlt b hb)
      · exact Int32.lt_irrefl (heq ▸ hgt b hb)
  · rintro rfl
    cases hfind : (hashBuckets entries).find? (fun b => b.hash = x) with
    | some b =>
      obtain ⟨i, hi⟩ := List.mem_iff_getElem?.mp (List.mem_of_find?_eq_some hfind)
      exact .found hi (by simpa using List.find?_some hfind)
    | none =>
      obtain ⟨i, hlt, hgt⟩ := exists_gap hs (by simpa using hfind)
      exact .missing i hlt hgt

/-- How every switch map is laid out. The buckets are in strictly increasing order of their hashes;
none is empty, its keys have its hash, and no two of them are the same. The size of the map is the
number of classes of keys that are the same, and where the hash decides alone every bucket has one
entry. A dense map tabulates its buckets between the first and the last hash, and the cases of a
sparse map are exactly its buckets. -/
theorem laid_out_by_hash {entries : List (Symbol k × β)} {m : SwitchMap k β}
    (h : m.MadeFrom entries) :
    m.buckets.Pairwise (fun b b' => b.hash < b'.hash) ∧
    (∀ b ∈ m.buckets, b.entries ≠ [] ∧ (∀ e ∈ b.entries, e.1.hash = b.hash) ∧
      b.entries.Pairwise fun e e' => e.1.same e'.1 = false) ∧
    m.size = (Symbol.classes (entries.map Prod.fst)).ncard ∧
    (k.comparison = .identity → ∀ b ∈ m.buckets, b.entries.length = 1) ∧
    (∀ min max, m.layout = .dense min max → m.Tabulated min max) ∧
    (m.layout = .sparse → m.cases = m.buckets.map fun b => (b.hash, some b)) := by
  obtain ⟨dense, hmade⟩ := h.exists_ofBuckets
  have hbs := wellFormedBuckets_hashBuckets entries
  have hbuckets := h.buckets_eq
  rw [hbuckets]
  refine ⟨hbs.sorted, fun b hb => ?_, ?_, fun hk b hb => ?_, fun min max hlayout => ?_, ?_⟩
  · exact ⟨(hbs.wellFormed b hb).nonempty, (hbs.wellFormed b hb).hash_eq,
      (hbs.wellFormed b hb).distinct⟩
  · rw [size, hbuckets, ← List.length_map Prod.fst, Symbol.ncard_classes]
    · exact List.pairwise_map.mpr hbs.pairwise_entries
    · intro x
      simpa only [List.mem_map, exists_exists_and_eq_and] using exists_key_hashBuckets_iff
  · exact (hbs.wellFormed b hb).length_entries hk
  · exact tabulated_of_ofBuckets hbs.sorted hmade hlayout
  · intro hlayout
    rw [cases, hlayout, hbuckets]

/-- Keys up to the largest hash, with a hole between them and one of them twice. -/
def topmostEntries : List (Int32 × Char) :=
  [(2147483647, 'a'), (2147483645, 'b'), (2147483647, 'c')]

/-- A dense map at the end of the hashes, and a sparse one with keys that share a hash. -/
theorem laid_out_by_hash_topmost :
    ∃ (dense : SwitchMap .i32 Char) (sparse : SwitchMap .i64 Char),
      SwitchMap.dense (k := .i32) topmostEntries = .ok dense ∧
      SwitchMap.sparse (k := .i64) crowdedEntries = .ok sparse ∧
      dense.Tabulated 2147483645 2147483647 ∧ dense.slots = #[some 0, none, some 1] ∧
      (Symbol.classes (k := .i32) (topmostEntries.map Prod.fst)).ncard = 2 ∧
      (∀ b ∈ dense.buckets, b.entries.length = 1) ∧
      (Symbol.classes (k := .i64) (crowdedEntries.map Prod.fst)).ncard = 5 ∧
      sparse.cases = sparse.buckets.map fun b => (b.hash, some b) := by
  obtain ⟨dense, hdense⟩ : ∃ m, SwitchMap.dense (k := .i32) topmostEntries = .ok m := ⟨_, rfl⟩
  obtain ⟨sparse, hsparse⟩ : ∃ m, SwitchMap.sparse (k := .i64) crowdedEntries = .ok m := ⟨_, rfl⟩
  obtain ⟨-, -, hsize, hone, htable, -⟩ := laid_out_by_hash (.dense hdense)
  obtain ⟨-, -, hsize', -, -, hcases⟩ := laid_out_by_hash (.sparse hsparse)
  refine ⟨dense, sparse, hdense, hsparse, htable _ _ ?_, ?_, ?_, hone rfl, ?_, hcases ?_⟩
  · cases hdense
    rfl
  · cases hdense
    rfl
  · rw [← hsize]
    cases hdense
    rfl
  · rw [← hsize']
    cases hsparse
    rfl
  · cases hsparse
    rfl

end SwitchMap

end StateMachine
