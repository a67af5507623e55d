import StateMachine.Proofs.Layout

/-!
# Which layout is chosen

The choice between a dense and a sparse layout depends on one number, the distance between the least
and the largest hash of the keys. The gaps between neighbouring hashes play no part, since none is
wider than the whole. The limit up to which a dense layout is chosen is the limit up to which a
table can be made, so that a strategy never asks for a table that is too large.
-/

namespace StateMachine

variable {k : Kind} {β : Type}

/-! ### Distances in words -/

/-- A distance between hashes as words compute it: a signed difference, read as an unsigned one. -/
def wordDistance (a b : Int32) : UInt64 := (b.toInt64 - a.toInt64).toUInt64

/-- Hashes are so much narrower than words that their difference never wraps. -/
lemma toInt_sub_toInt64 (a b : Int32) : (b.toInt64 - a.toInt64).toInt = b.toInt - a.toInt := by
  have ha := a.le_toInt
  have ha' := a.toInt_lt
  have hb := b.le_toInt
  have hb' := b.toInt_lt
  rw [Int64.toInt_sub, Int32.toInt_toInt64, Int32.toInt_toInt64]
  apply Int.bmod_eq_of_le <;> omega

lemma toNat_wordDistance {a b : Int32} (h : a ≤ b) :
    (wordDistance a b).toNat = hashDistance a b := by
  have hdifference := toInt_sub_toInt64 a b
  have hle : 0 ≤ b.toInt64 - a.toInt64 := by
    rw [Int32.le_iff_toInt_le] at h
    rw [Int64.le_iff_toInt_le, hdifference, Int64.toInt_zero]
    omega
  rw [wordDistance, Int64.toNat_toUInt64_of_le hle, Int64.toNatClampNeg, hdifference, hashDistance]

/-! ### Spans of keys -/

/-- The distance between the least and the largest hash of the keys. -/
def keySpan (entries : List (Symbol k × β)) : Nat :=
  let hashes := entries.map fun e => e.1.hash.toInt
  (hashes.max?.getD 0 - hashes.min?.getD 0).toNat

/-- The hashes of the buckets are those of the keys. -/
lemma exists_bucket_iff {entries : List (Symbol k × β)} {h : Int32} :
    (∃ b ∈ hashBuckets entries, b.hash = h) ↔ ∃ e ∈ entries, e.1.hash = h := by
  have hbs := wellFormedBuckets_hashBuckets entries
  constructor
  · rintro ⟨b, hb, rfl⟩
    obtain ⟨e, he⟩ := List.exists_mem_of_ne_nil _ (hbs.wellFormed b hb).nonempty
    obtain ⟨e', he', hsame⟩ := exists_key_hashBuckets_iff.mp
      ⟨e, List.mem_flatMap.mpr ⟨b, hb, he⟩, Symbol.same_refl e.1⟩
    refine ⟨e', he', ?_⟩
    rw [Symbol.hash_eq_of_same hsame, (hbs.wellFormed b hb).hash_eq e he]
  · rintro ⟨e, he, rfl⟩
    obtain ⟨e', he', hsame⟩ := exists_key_hashBuckets_iff.mpr ⟨e, he, Symbol.same_refl e.1⟩
    obtain ⟨b, hb, he'⟩ := List.mem_flatMap.mp he'
    refine ⟨b, hb, ?_⟩
    rw [← (hbs.wellFormed b hb).hash_eq e' he', Symbol.hash_eq_of_same hsame]

lemma hashBuckets_eq_nil_iff {entries : List (Symbol k × β)} :
    hashBuckets entries = [] ↔ entries = [] := by
  constructor
  · intro h
    apply List.eq_nil_iff_forall_not_mem.mpr
    intro e he
    obtain ⟨b, hb, -⟩ := exists_bucket_iff.mpr ⟨e, he, rfl⟩
    simp [h] at hb
  · rintro rfl
    rfl

/-- The first and the last bucket have the least and the largest hash. -/
lemma hashSpan_hashBuckets (entries : List (Symbol k × β)) :
    hashSpan (hashBuckets entries) = keySpan entries := by
  by_cases hne : hashBuckets entries = []
  · rw [hne, hashBuckets_eq_nil_iff.mp hne]
    rfl
  · have hfirst := List.head?_eq_some_head hne
    have hlast := List.getLast?_eq_some_getLast hne
    have hbounds := SwitchMap.bounds_of_sorted (wellFormedBuckets_hashBuckets entries).sorted
      hfirst hlast
    have hmem : ∀ b ∈ hashBuckets entries, b.hash.toInt ∈ entries.map fun e => e.1.hash.toInt := by
      intro b hb
      obtain ⟨e, he, hhash⟩ := exists_bucket_iff.mp ⟨b, hb, rfl⟩
      exact List.mem_map.mpr ⟨e, he, by rw [hhash]⟩
    have hbucket : ∀ h ∈ entries.map fun e => e.1.hash.toInt,
        ∃ b ∈ hashBuckets entries, b.hash.toInt = h := by
      intro h hh
      obtain ⟨e, he, rfl⟩ := List.mem_map.mp hh
      obtain ⟨b, hb, hhash⟩ := exists_bucket_iff.mpr ⟨e, he, rfl⟩
      exact ⟨b, hb, by rw [hhash]⟩
    have hmin : (entries.map fun e => e.1.hash.toInt).min?
        = some ((hashBuckets entries).head hne).hash.toInt := by
      apply List.min?_eq_some_iff.mpr
      refine ⟨hmem _ (List.head_mem hne), fun h hh => ?_⟩
      obtain ⟨b, hb, rfl⟩ := hbucket h hh
      exact (hbounds b hb).1
    have hmax : (entries.map fun e => e.1.hash.toInt).max?
        = some ((hashBuckets entries).getLast hne).hash.toInt := by
      apply List.max?_eq_some_iff.mpr
      refine ⟨hmem _ (List.getLast_mem hne), fun h hh => ?_⟩
      obtain ⟨b, hb, rfl⟩ := hbucket h hh
      exact (hbounds b hb).2
    simp only [hashSpan, hfirst, hlast, keySpan, hmin, hmax, Option.getD_some, hashDistance]

/-- No gap between neighbours is wider than the whole. -/
lemma hashGap_le_hashSpan {bs : List (Bucket k β)}
    (hs : bs.Pairwise fun b b' => b.hash < b'.hash) : hashGap bs ≤ hashSpan bs := by
  induction bs with
  | nil => simp [hashGap]
  | cons a bs ih =>
    cases bs with
    | nil => simp [hashGap]
    | cons b rest =>
      obtain ⟨hlt, hs⟩ := List.pairwise_cons.mp hs
      have hlast := List.getLast?_eq_some_getLast (List.cons_ne_nil b rest)
      have hab := SwitchMap.toInt_lt_of_lt (hlt b (by simp))
      have hb := (SwitchMap.bounds_of_sorted hs rfl hlast b (by simp)).2
      have hgap := ih hs
      simp only [hashSpan, List.head?_cons, List.getLast?_cons_cons, hlast, hashDistance] at hgap ⊢
      rw [hashGap, hashDistance]
      omega

/-! ### Layouts -/

/-- The spans of keys that a strategy lays out densely. -/
def Strategy.Admits (maxDelta : UInt32) (span : Nat) : Strategy → Prop
  | .auto => span ≤ maxDelta.toNat ∧ span < 65536
  | .dense => span < 65536
  | .sparse => False

lemma Strategy.Admits.mono {strategy : Strategy} {span : Nat} {maxDelta maxDelta' : UInt32}
    (h : strategy.Admits maxDelta span) (hle : maxDelta ≤ maxDelta') :
    strategy.Admits maxDelta' span := by
  cases strategy with
  | auto => exact ⟨h.1.trans (UInt32.le_iff_toNat_le.mp hle), h.2⟩
  | dense => exact h
  | sparse => exact h

namespace SwitchMap

variable {bs : List (Bucket k β)} {entries : List (Symbol k × β)} {dense : Bool}
  {maxDelta : UInt32} {strategy : Strategy} {m : SwitchMap k β} {e : SwitchError}

lemma ofBuckets_eq_error_iff :
    ofBuckets bs dense = .error e ↔
      (bs = [] ∧ e = .empty) ∨
        (bs ≠ [] ∧ dense = true ∧ maxSlots < hashSpan bs + 1 ∧
          e = .tableTooLarge (hashSpan bs + 1) maxSlots) := by
  by_cases hne : bs = []
  · simp [hne, ofBuckets, eq_comm]
  · have hfirst := List.head?_eq_some_head hne
    have hlast := List.getLast?_eq_some_getLast hne
    rw [ofBuckets, hfirst, hlast]
    dsimp only
    split_ifs with hdense hwidth
    · simp [hne, hdense, hwidth, eq_comm]
    · simp [hne, hwidth]
    · simp [hne, hdense]

/-- A dense layout is chosen only for tables that are not too large. -/
lemma span_lt_of_choose (h : (choose bs maxDelta strategy).2 = true) : hashSpan bs < maxSlots := by
  cases strategy with
  | dense => exact of_decide_eq_true h
  | sparse => cases h
  | auto => exact (of_decide_eq_true h).2

lemma ofEntries_eq_error_iff :
    (ofEntries entries maxDelta strategy).result = .error e ↔
      (maxDelta = 0 ∧ e = .zeroDelta) ∨ (maxDelta ≠ 0 ∧ entries = [] ∧ e = .empty) := by
  rw [ofEntries]
  split_ifs with hzero
  · simp [Logged.fail, hzero, eq_comm]
  · simp only [hzero, false_and, ne_eq, not_false_eq_true, true_and, false_or]
    rw [ofBuckets_eq_error_iff, hashBuckets_eq_nil_iff]
    apply or_iff_left
    rintro ⟨-, hdense, hwidth, -⟩
    have hspan := span_lt_of_choose hdense
    omega

lemma strategy_of_ofBuckets (h : ofBuckets bs dense = .ok m) :
    m.strategy = .dense ↔ dense = true := by
  obtain ⟨first, last, -, -, ⟨rfl, rfl⟩ | ⟨rfl, -, rfl⟩⟩ := ofBuckets_eq_ok h <;> simp [strategy]

/-- The span of the keys decides alone. -/
lemma choose_iff_admits :
    (choose (hashBuckets entries) maxDelta strategy).2 = true ↔
      strategy.Admits maxDelta (keySpan entries) := by
  have hgap := hashGap_le_hashSpan (wellFormedBuckets_hashBuckets entries).sorted
  rw [← hashSpan_hashBuckets]
  cases strategy with
  | auto => simp [choose, Strategy.Admits, maxSlots, Nat.max_eq_left hgap]
  | dense => exact decide_eq_true_iff
  | sparse => simp [choose, Strategy.Admits]

lemma strategy_of_ofEntries (h : (ofEntries entries maxDelta strategy).result = .ok m) :
    m.strategy = .dense ↔ strategy.Admits maxDelta (keySpan entries) := by
  rw [ofEntries] at h
  split_ifs at h
  · cases h
  · rw [strategy_of_ofBuckets h, choose_iff_admits]

/-- A larger bound on the span never takes a dense layout away. -/
lemma exists_dense_of_le {maxDelta' : UInt32} (hle : maxDelta ≤ maxDelta')
    (h : (ofEntries entries maxDelta strategy).result = .ok m) (hm : m.strategy = .dense) :
    ∃ m', (ofEntries entries maxDelta' strategy).result = .ok m' ∧ m'.strategy = .dense := by
  cases h' : (ofEntries entries maxDelta' strategy).result with
  | ok m' =>
    refine ⟨m', rfl, (strategy_of_ofEntries h').mpr ?_⟩
    exact ((strategy_of_ofEntries h).mp hm).mono hle
  | error e =>
    -- what fails with the larger bound fails with the smaller one
    have herror : ∃ e', (ofEntries entries maxDelta strategy).result = .error e' := by
      rcases ofEntries_eq_error_iff.mp h' with ⟨rfl, -⟩ | ⟨-, hnil, -⟩
      · exact ⟨_, ofEntries_eq_error_iff.mpr (Or.inl ⟨UInt32.le_zero_iff.mp hle, rfl⟩)⟩
      · by_cases hzero : maxDelta = 0
        · exact ⟨_, ofEntries_eq_error_iff.mpr (Or.inl ⟨hzero, rfl⟩)⟩
        · exact ⟨_, ofEntries_eq_error_iff.mpr (Or.inr ⟨hzero, hnil, rfl⟩)⟩
    obtain ⟨e', he'⟩ := herror
    rw [h] at he'
    cases he'

/-- The layout follows the span of the keys, the exact distance between their least and their
largest hash. Under a strategy a map is refused exactly for a bound of zero, or else for no entries;
otherwise it is dense exactly if the strategy admits the span, where the gaps between hashes never
count and a larger bound never makes a dense map sparse. A table that is asked for outright is
refused exactly for no entries, or else for a span that leaves no room for it. All distances fit
into words. -/
theorem layout_follows_span (entries : List (Symbol k × β)) :
    (∀ maxDelta strategy e, (ofEntries entries maxDelta strategy).result = .error e ↔
      (maxDelta = 0 ∧ e = .zeroDelta) ∨ (maxDelta ≠ 0 ∧ entries = [] ∧ e = .empty)) ∧
    (∀ maxDelta strategy m, (ofEntries entries maxDelta strategy).result = .ok m →
      (m.strategy = .dense ↔ strategy.Admits maxDelta (keySpan entries)) ∧
      (m.strategy = .dense → ∀ maxDelta', maxDelta ≤ maxDelta' →
        ∃ m', (ofEntries entries maxDelta' strategy).result = .ok m' ∧ m'.strategy = .dense)) ∧
    max (hashSpan (hashBuckets entries)) (hashGap (hashBuckets entries)) = keySpan entries ∧
    (∀ e, SwitchMap.dense entries = .error e ↔
      (entries = [] ∧ e = .empty) ∨ (entries ≠ [] ∧ 65536 < keySpan entries + 1 ∧
        e = .tableTooLarge (keySpan entries + 1) 65536)) ∧
    ∀ a b : Int32, (b.toInt64 - a.toInt64).toInt = b.toInt - a.toInt ∧
      (a ≤ b → (wordDistance a b).toNat = hashDistance a b) := by
  refine ⟨fun _ _ _ => ofEntries_eq_error_iff, fun maxDelta strategy m h => ⟨?_, ?_⟩, ?_,
    fun e => ?_, fun a b => ⟨toInt_sub_toInt64 a b, toNat_wordDistance⟩⟩
  · exact strategy_of_ofEntries h
  · intro hm maxDelta' hle
    exact exists_dense_of_le hle h hm
  · have hgap := hashGap_le_hashSpan (wellFormedBuckets_hashBuckets entries).sorted
    rw [Nat.max_eq_left hgap, hashSpan_hashBuckets]
  · rw [SwitchMap.dense, ofBuckets_eq_error_iff, hashSpan_hashBuckets, Ne, hashBuckets_eq_nil_iff]
    simp [maxSlots]

/-- The least and the largest hash are as far apart as can be. -/
example : SwitchMap.dense (k := .i32) [(2147483647, 'a'), (-2147483648, 'b')]
    = .error (.tableTooLarge 4294967296 65536) := rfl

end SwitchMap

end StateMachine
