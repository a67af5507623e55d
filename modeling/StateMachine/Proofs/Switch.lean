import StateMachine.Proofs.Symbol
import StateMachine.Switch

/-!
# Switch maps are last-wins maps

Buckets stay sorted by hash and keep one entry for each symbol, up to sameness, while entries are
put in one by one. So the last entry of a symbol is the one that is found, by either layout: the
slots of a dense table name exactly the buckets of their hashes.
-/

namespace StateMachine

variable {k : Kind} {β : Type}

/-- The payload of the last entry of a symbol. -/
def lastPayload? (entries : List (Symbol k × β)) (x : Symbol k) : Option β :=
  (entries.reverse.find? (·.1.same x)).map Prod.snd

lemma lastPayload?_append (as bs : List (Symbol k × β)) (x : Symbol k) :
    lastPayload? (as ++ bs) x = (lastPayload? bs x).or (lastPayload? as x) := by
  simp only [lastPayload?, List.reverse_append, List.find?_append, Option.map_or]

lemma lastPayload?_cons (e : Symbol k × β) (es : List (Symbol k × β)) (x : Symbol k) :
    lastPayload? (e :: es) x
      = (lastPayload? es x).or (if e.1.same x then some e.2 else none) := by
  rw [← List.singleton_append, lastPayload?_append]
  congr 1
  simp only [lastPayload?, List.reverse_singleton, List.find?_singleton]
  split_ifs <;> rfl

/-- What is found belongs to an entry of the symbol. -/
lemma exists_of_lastPayload? {entries : List (Symbol k × β)} {x : Symbol k} {v : β}
    (h : lastPayload? entries x = some v) : ∃ e ∈ entries, e.1.same x = true ∧ e.2 = v := by
  obtain ⟨e, he, rfl⟩ := Option.map_eq_some_iff.mp h
  have hsame : e.1.same x = true := by simpa using List.find?_some he
  exact ⟨e, List.mem_reverse.mp (List.mem_of_find?_eq_some he), hsame, rfl⟩

lemma lastPayload?_eq_none_iff {entries : List (Symbol k × β)} {x : Symbol k} :
    lastPayload? entries x = none ↔ ∀ e ∈ entries, e.1.same x = false := by
  simp [lastPayload?]

/-- The last entry of a symbol is the one behind which no other is the same. -/
lemma lastPayload?_eq_some_iff {entries : List (Symbol k × β)} {x : Symbol k} {v : β} :
    lastPayload? entries x = some v ↔ ∃ before key after, entries = before ++ (key, v) :: after ∧
      key.same x = true ∧ ∀ e ∈ after, e.1.same x = false := by
  rw [lastPayload?, Option.map_eq_some_iff]
  constructor
  · rintro ⟨⟨key, v⟩, hfind, rfl⟩
    obtain ⟨hkey, behind, front, hsplit, hbehind⟩ := List.find?_eq_some_iff_append.mp hfind
    refine ⟨front.reverse, key, behind.reverse, ?_, hkey, ?_⟩
    · rw [← List.reverse_reverse entries, hsplit]
      simp
    · intro e he
      simpa using hbehind e (List.mem_reverse.mp he)
  · rintro ⟨before, key, after, rfl, hkey, hafter⟩
    refine ⟨(key, v), ?_, rfl⟩
    refine List.find?_eq_some_iff_append.mpr ⟨hkey, after.reverse, before.reverse, ?_, ?_⟩
    · simp
    · intro e he
      simpa using hafter e (List.mem_reverse.mp he)

/-! ### Buckets -/

namespace Bucket

/-- The entries of a bucket have its hash, and no two of them are the same. -/
structure WellFormed (b : Bucket k β) : Prop where
  nonempty : b.entries ≠ []
  hash_eq : ∀ e ∈ b.entries, e.1.hash = b.hash
  distinct : b.entries.Pairwise (fun e e' => e.1.same e'.1 = false)

/-- The payload of a symbol by exact comparison alone. -/
def payload? (b : Bucket k β) (x : Symbol k) : Option β :=
  (b.entries.find? (·.1.same x)).map Prod.snd

lemma wellFormed_singleton (x : Symbol k) (v : β) :
    (⟨x.hash, [(x, v)]⟩ : Bucket k β).WellFormed where
  nonempty := by simp
  hash_eq := by simp
  distinct := by simp

@[simp] lemma put_hash (b : Bucket k β) (x : Symbol k) (v : β) : (b.put x v).hash = b.hash := by
  rw [put]
  split_ifs <;> rfl

lemma WellFormed.put {b : Bucket k β} (hb : b.WellFormed) {x : Symbol k} (hx : b.hash = x.hash)
    (v : β) : (b.put x v).WellFormed := by
  rw [Bucket.put]
  split_ifs with hany
  · refine ⟨?_, ?_, ?_⟩
    · simpa using hb.nonempty
    · intro e he
      obtain ⟨e', he', rfl⟩ := List.mem_map.mp he
      have := hb.hash_eq e' he'
      split_ifs <;> exact this
    · refine List.pairwise_map.mpr (hb.distinct.imp ?_)
      intro e e' h
      split_ifs <;> exact h
  · simp only [List.any_eq_true, not_exists, not_and, Bool.not_eq_true] at hany
    refine ⟨by simp, ?_, ?_⟩
    · intro e he
      rcases List.mem_append.mp he with he | he
      · exact hb.hash_eq e he
      · rw [List.mem_singleton.mp he]
        exact hx.symm
    · refine List.pairwise_append.mpr ⟨hb.distinct, by simp, ?_⟩
      intro e he e' he'
      rw [List.mem_singleton.mp he']
      exact hany e he

/-- Replacing payloads does not change which entry is found. -/
lemma find?_map_payload (es : List (Symbol k × β)) (x y : Symbol k) (v : β) :
    (es.map (fun e => if e.1.same x then (e.1, v) else e)).find? (·.1.same y)
      = (es.find? (·.1.same y)).map (fun e => if e.1.same x then (e.1, v) else e) := by
  rw [List.find?_map]
  congr 1
  refine congrArg (fun p => es.find? p) (funext fun e => ?_)
  simp only [Function.comp_apply]
  split_ifs <;> rfl

/-- Putting an entry in changes what is found for its symbol and for no other. -/
lemma payload?_put (b : Bucket k β) (x y : Symbol k) (v : β) :
    (b.put x v).payload? y = if x.same y then some v else b.payload? y := by
  rw [put]
  split_ifs with hany hxy hxy
  · -- the payload is replaced at the entry that is found
    obtain ⟨e, he, hex⟩ := List.any_eq_true.mp hany
    have hsome : (b.entries.find? (·.1.same y)).isSome = true :=
      List.find?_isSome.mpr ⟨e, he, Symbol.same_trans hex hxy⟩
    obtain ⟨e', he'⟩ := Option.isSome_iff_exists.mp hsome
    have hey : e'.1.same y = true := by simpa using List.find?_some he'
    have hex' : e'.1.same x = true := Symbol.same_trans hey (Symbol.same_symm hxy)
    rw [payload?, find?_map_payload, he']
    simp [hex']
  · -- an entry of another symbol keeps its payload
    rw [payload?, payload?, find?_map_payload, Option.map_map]
    refine Option.map_congr fun e he => ?_
    have hey : e.1.same y = true := by simpa using List.find?_some he
    have hex : ¬ e.1.same x = true := fun h => hxy (Symbol.same_trans (Symbol.same_symm h) hey)
    simp [hex]
  · have hnone : b.entries.find? (·.1.same y) = none := by
      refine List.find?_eq_none.mpr fun e he hey => hany (List.any_eq_true.mpr ⟨e, he, ?_⟩)
      exact Symbol.same_trans hey (Symbol.same_symm hxy)
    simp [payload?, List.find?_append, hnone, hxy]
  · simp [payload?, List.find?_append, hxy]

/-- Comparing is left out only where it would succeed. -/
lemma WellFormed.resolve_eq {b : Bucket k β} (hb : b.WellFormed) {x : Symbol k}
    (hx : b.hash = x.hash) : b.resolve x = b.payload? x := by
  rw [resolve]
  split
  · next e hexact he =>
    have hsame : e.1.same x = true :=
      Symbol.same_of_hash_eq hexact ((hb.hash_eq e (by simp [he])).trans hx)
    simp [payload?, he, hsame]
  · rfl

end Bucket

/-- Buckets in increasing order of their hashes. -/
structure WellFormedBuckets (bs : List (Bucket k β)) : Prop where
  sorted : bs.Pairwise (fun b b' => b.hash < b'.hash)
  wellFormed : ∀ b ∈ bs, b.WellFormed

/-- The payload of a symbol in the bucket of its hash. -/
def bucketPayload? (bs : List (Bucket k β)) (x : Symbol k) : Option β :=
  (bs.find? (fun b => b.hash = x.hash)).bind (·.payload? x)

@[simp] lemma bucketPayload?_cons (b : Bucket k β) (bs : List (Bucket k β)) (x : Symbol k) :
    bucketPayload? (b :: bs) x
      = if b.hash = x.hash then b.payload? x else bucketPayload? bs x := by
  simp only [bucketPayload?, List.find?_cons]
  split_ifs with h <;> simp [h]

lemma bucketPayload?_eq_none_of_lt {bs : List (Bucket k β)} {x : Symbol k}
    (h : ∀ b ∈ bs, x.hash < b.hash) : bucketPayload? bs x = none := by
  have hnone : bs.find? (fun b => b.hash = x.hash) = none := by
    refine List.find?_eq_none.mpr fun b hb heq => ?_
    have hlt := h b hb
    rw [of_decide_eq_true heq] at hlt
    exact Int32.lt_irrefl hlt
  rw [bucketPayload?, hnone]
  rfl

lemma hash_of_mem_insertEntry {x : Symbol k} {v : β} {bs : List (Bucket k β)} {b : Bucket k β}
    (h : b ∈ insertEntry x v bs) : b.hash = x.hash ∨ ∃ b' ∈ bs, b'.hash = b.hash := by
  induction bs with
  | nil => simp_all [insertEntry]
  | cons b' bs ih =>
    rw [insertEntry] at h
    split_ifs at h with heq hlt
    · rcases List.mem_cons.mp h with rfl | h
      · exact Or.inl (by simpa using heq)
      · exact Or.inr ⟨b, by simp [h], rfl⟩
    · rcases List.mem_cons.mp h with rfl | h
      · exact Or.inl rfl
      · exact Or.inr ⟨b, h, rfl⟩
    · rcases List.mem_cons.mp h with rfl | h
      · exact Or.inr ⟨b, by simp, rfl⟩
      · rcases ih h with h | ⟨b'', hb'', h⟩
        · exact Or.inl h
        · exact Or.inr ⟨b'', by simp [hb''], h⟩

lemma WellFormedBuckets.insertEntry {bs : List (Bucket k β)} (hbs : WellFormedBuckets bs)
    (x : Symbol k) (v : β) : WellFormedBuckets (insertEntry x v bs) := by
  induction bs with
  | nil => exact ⟨by simp [StateMachine.insertEntry], by
      simpa [StateMachine.insertEntry] using Bucket.wellFormed_singleton x v⟩
  | cons b bs ih =>
    obtain ⟨hlt, hsorted⟩ := List.pairwise_cons.mp hbs.sorted
    have hb := hbs.wellFormed b (by simp)
    have hrest : ∀ b' ∈ bs, b'.WellFormed := fun b' h => hbs.wellFormed b' (by simp [h])
    rw [StateMachine.insertEntry]
    split_ifs with heq hbefore
    · refine ⟨List.pairwise_cons.mpr ⟨by simpa using hlt, hsorted⟩, ?_⟩
      exact List.forall_mem_cons.mpr ⟨hb.put heq v, hrest⟩
    · refine ⟨List.pairwise_cons.mpr ⟨?_, hbs.sorted⟩, ?_⟩
      · exact List.forall_mem_cons.mpr
          ⟨hbefore, fun b' h => Int32.lt_trans hbefore (hlt b' h)⟩
      · exact List.forall_mem_cons.mpr ⟨Bucket.wellFormed_singleton x v, hbs.wellFormed⟩
    · have htail := ih ⟨hsorted, hrest⟩
      refine ⟨List.pairwise_cons.mpr ⟨?_, htail.sorted⟩,
        List.forall_mem_cons.mpr ⟨hb, htail.wellFormed⟩⟩
      intro b' hb'
      rcases hash_of_mem_insertEntry hb' with h | ⟨b'', hb'', h⟩
      · rw [h]
        exact Int32.lt_of_le_of_ne (Int32.not_lt.mp hbefore) heq
      · rw [← h]
        exact hlt b'' hb''

/-- The last entry of a symbol replaces the earlier ones, and no others. -/
lemma WellFormedBuckets.bucketPayload?_insertEntry {bs : List (Bucket k β)}
    (hbs : WellFormedBuckets bs) (x y : Symbol k) (v : β) :
    bucketPayload? (StateMachine.insertEntry x v bs) y
      = if x.same y then some v else bucketPayload? bs y := by
  have hsingle : (⟨x.hash, [(x, v)]⟩ : Bucket k β).payload? y
      = if x.same y then some v else none := by
    simp only [Bucket.payload?, List.find?_singleton]
    split_ifs <;> rfl
  have hne : ¬ x.hash = y.hash → x.same y = false := by
    intro h
    simpa using mt Symbol.hash_eq_of_same h
  induction bs with
  | nil =>
    simp only [StateMachine.insertEntry, bucketPayload?_cons, hsingle]
    split_ifs with h hs hs
    · rfl
    · rfl
    · simp [hne h] at hs
    · rfl
  | cons b bs ih =>
    obtain ⟨hlt, hsorted⟩ := List.pairwise_cons.mp hbs.sorted
    have hrest : ∀ b' ∈ bs, b'.WellFormed := fun b' h => hbs.wellFormed b' (by simp [h])
    by_cases heq : b.hash = x.hash
    · rw [StateMachine.insertEntry, if_pos heq, bucketPayload?_cons, bucketPayload?_cons,
        Bucket.put_hash, Bucket.payload?_put]
      by_cases hy : b.hash = y.hash
      · simp only [if_pos hy]
      · simp [hy, hne (heq ▸ hy)]
    by_cases hbefore : x.hash < b.hash
    · rw [StateMachine.insertEntry, if_neg heq, if_pos hbefore, bucketPayload?_cons, hsingle]
      by_cases hy : x.hash = y.hash
      · -- every bucket that was there has a larger hash
        have hnone : bucketPayload? (b :: bs) y = none := by
          refine bucketPayload?_eq_none_of_lt (List.forall_mem_cons.mpr ?_)
          rw [← hy]
          exact ⟨hbefore, fun b' hb' => Int32.lt_trans hbefore (hlt b' hb')⟩
        simp only [if_pos hy, hnone]
      · simp [hy, hne hy]
    · rw [StateMachine.insertEntry, if_neg heq, if_neg hbefore, bucketPayload?_cons,
        bucketPayload?_cons, ih ⟨hsorted, hrest⟩]
      by_cases hy : b.hash = y.hash
      · have hxy : ¬ x.hash = y.hash := fun h => heq (hy.trans h.symm)
        simp [hy, hne hxy]
      · simp only [if_neg hy]

lemma wellFormedBuckets_foldl {entries : List (Symbol k × β)} {bs : List (Bucket k β)}
    (hbs : WellFormedBuckets bs) :
    WellFormedBuckets (entries.foldl (fun bs e => insertEntry e.1 e.2 bs) bs) := by
  induction entries generalizing bs with
  | nil => exact hbs
  | cons e es ih => exact ih (hbs.insertEntry e.1 e.2)

lemma wellFormedBuckets_hashBuckets (entries : List (Symbol k × β)) :
    WellFormedBuckets (hashBuckets entries) :=
  wellFormedBuckets_foldl ⟨List.Pairwise.nil, by simp⟩

lemma bucketPayload?_foldl (entries : List (Symbol k × β)) {bs : List (Bucket k β)}
    (hbs : WellFormedBuckets bs) (x : Symbol k) :
    bucketPayload? (entries.foldl (fun bs e => insertEntry e.1 e.2 bs) bs) x
      = (lastPayload? entries x).or (bucketPayload? bs x) := by
  induction entries generalizing bs with
  | nil => rfl
  | cons e es ih =>
    rw [List.foldl_cons, ih (hbs.insertEntry e.1 e.2), hbs.bucketPayload?_insertEntry,
      lastPayload?_cons, Option.or_assoc]
    split_ifs <;> rfl

/-- Gathering entries into buckets keeps the last payload of each symbol. -/
lemma bucketPayload?_hashBuckets (entries : List (Symbol k × β)) (x : Symbol k) :
    bucketPayload? (hashBuckets entries) x = lastPayload? entries x := by
  rw [hashBuckets, bucketPayload?_foldl entries ⟨List.Pairwise.nil, by simp⟩]
  simp [bucketPayload?]

/-! ### Layouts -/

/-- Where keys are not repeated, an element is the one with its key. -/
lemma find?_eq_some_of_nodup_map {α γ : Type} [DecidableEq γ] {key : α → γ} {l : List α}
    (hl : (l.map key).Nodup) {a : α} (ha : a ∈ l) : l.find? (fun b => key b = key a) = some a := by
  obtain ⟨l₁, l₂, rfl⟩ := List.append_of_mem ha
  apply List.find?_eq_some_iff_append.mpr
  refine ⟨by simp, l₁, l₂, rfl, fun b hb => ?_⟩
  rw [List.map_append, List.map_cons] at hl
  have hne : key b ≠ key a := by
    intro heq
    apply List.disjoint_of_nodup_append hl (List.mem_map_of_mem hb)
    rw [heq]
    exact List.mem_cons_self
  simpa using hne

namespace SwitchMap

/-- What a map of given buckets looks like. -/
lemma ofBuckets_eq_ok {bs : List (Bucket k β)} {dense : Bool} {m : SwitchMap k β}
    (h : ofBuckets bs dense = .ok m) :
    ∃ first last, bs.head? = some first ∧ bs.getLast? = some last ∧
      (dense = false ∧ m = ⟨bs, #[], .sparse⟩ ∨
        dense = true ∧ hashSpan bs < maxSlots ∧
          m = ⟨bs, slotTable first.hash (hashSpan bs + 1) bs, .dense first.hash last.hash⟩) := by
  rw [ofBuckets] at h
  split at h
  · next first last hfirst hlast =>
    refine ⟨first, last, hfirst, hlast, ?_⟩
    dsimp only at h
    split_ifs at h with hdense hwidth
    · exact Or.inr ⟨hdense, by omega, (Except.ok.inj h).symm⟩
    · exact Or.inl ⟨by simpa using hdense, (Except.ok.inj h).symm⟩
  · cases h

/-- Slots that no bucket asks for stay as they are. -/
lemma getElem?_setSlots_of_forall_ne {min : Int32} {l : List (Bucket k β × Nat)} {d : Nat}
    (h : ∀ p ∈ l, hashDistance min p.1.hash ≠ d) (slots : Array (Option Nat)) :
    (l.foldl (fun slots p => slots.setIfInBounds (hashDistance min p.1.hash) (some p.2))
      slots)[d]? = slots[d]? := by
  induction l generalizing slots with
  | nil => rfl
  | cons p l ih =>
    rw [List.foldl_cons, ih fun q hq => h q (by simp [hq])]
    exact Array.getElem?_setIfInBounds_ne (h p (by simp))

/-- A slot that one bucket asks for names it. -/
lemma getElem?_setSlots_of_mem {min : Int32} {l : List (Bucket k β × Nat)} {d : Nat}
    {p : Bucket k β × Nat} (hp : p ∈ l) (hd : hashDistance min p.1.hash = d)
    (huniq : ∀ q ∈ l, hashDistance min q.1.hash = d → q = p) {slots : Array (Option Nat)}
    (hsize : d < slots.size) :
    (l.foldl (fun slots p => slots.setIfInBounds (hashDistance min p.1.hash) (some p.2))
      slots)[d]? = some (some p.2) := by
  induction l generalizing slots with
  | nil => simp at hp
  | cons q l ih =>
    rw [List.foldl_cons]
    by_cases hpl : p ∈ l
    · exact ih hpl (fun q' hq' => huniq q' (by simp [hq'])) (by simpa using hsize)
    · -- no later bucket overwrites the slot
      obtain rfl : p = q := (List.mem_cons.mp hp).resolve_right hpl
      have hrest : ∀ q ∈ l, hashDistance min q.1.hash ≠ d := fun q hq h =>
        hpl (huniq q (by simp [hq]) h ▸ hq)
      rw [getElem?_setSlots_of_forall_ne hrest, hd]
      simp [hsize]

lemma toInt_lt_of_lt {a b : Int32} (h : a < b) : a.toInt < b.toInt := Int32.lt_iff_toInt_lt.mp h

/-- All hashes lie between the first and the last one. -/
lemma bounds_of_sorted {bs : List (Bucket k β)}
    (hs : bs.Pairwise (fun b b' => b.hash < b'.hash)) {first last : Bucket k β}
    (hfirst : bs.head? = some first) (hlast : bs.getLast? = some last) :
    ∀ b ∈ bs, first.hash.toInt ≤ b.hash.toInt ∧ b.hash.toInt ≤ last.hash.toInt := by
  intro b hb
  obtain ⟨rest, rfl⟩ := List.head?_eq_some_iff.mp hfirst
  obtain ⟨init, hinit⟩ := List.getLast?_eq_some_iff.mp hlast
  constructor
  · rcases List.mem_cons.mp hb with rfl | hb
    · exact Int.le_refl _
    · exact Int.le_of_lt (toInt_lt_of_lt ((List.pairwise_cons.mp hs).1 b hb))
  · rw [hinit] at hs hb
    rcases List.mem_append.mp hb with hb | hb
    · exact Int.le_of_lt (toInt_lt_of_lt ((List.pairwise_append.mp hs).2.2 b hb last (by simp)))
    · rw [List.mem_singleton.mp hb]

/-- The hash of every bucket has its place in a table. -/
lemma hashDistance_lt_width {bs : List (Bucket k β)}
    (hs : bs.Pairwise (fun b b' => b.hash < b'.hash)) {first last : Bucket k β}
    (hfirst : bs.head? = some first) (hlast : bs.getLast? = some last) {b : Bucket k β}
    (hb : b ∈ bs) : hashDistance first.hash b.hash < hashSpan bs + 1 := by
  have hbounds := bounds_of_sorted hs hfirst hlast b hb
  simp only [hashSpan, hfirst, hlast, hashDistance]
  omega

/-- In sorted buckets, a bucket is the one with its hash. -/
lemma find?_hash_of_mem {bs : List (Bucket k β)}
    (hs : bs.Pairwise (fun b b' => b.hash < b'.hash)) {b : Bucket k β} (hb : b ∈ bs) :
    bs.find? (fun b' => b'.hash = b.hash) = some b := by
  apply find?_eq_some_of_nodup_map _ hb
  apply List.pairwise_map.mpr
  apply hs.imp
  intro b b' hlt heq
  exact Int32.lt_irrefl (heq ▸ hlt)

/-- The slot of a bucket's hash names the bucket. -/
lemma getElem?_slotTable {bs : List (Bucket k β)}
    (hs : bs.Pairwise (fun b b' => b.hash < b'.hash)) {min : Int32}
    (hmin : ∀ b ∈ bs, min.toInt ≤ b.hash.toInt) {i : Nat} {b : Bucket k β}
    (hi : bs[i]? = some b) {width : Nat} (hwidth : hashDistance min b.hash < width) :
    (slotTable min width bs)[hashDistance min b.hash]? = some (some i) := by
  have hb : (b, i) ∈ bs.zipIdx := List.mem_zipIdx_iff_getElem?.mpr hi
  refine getElem?_setSlots_of_mem hb rfl ?_ (by simpa using hwidth)
  -- distances tell the buckets apart, as their hashes do
  rintro ⟨b', j⟩ hq hd
  have hj : bs[j]? = some b' := List.mem_zipIdx_iff_getElem?.mp hq
  have hmb := hmin b (List.mem_of_getElem? hi)
  have hmb' := hmin b' (List.mem_of_getElem? hj)
  have hhash : b'.hash = b.hash := by
    apply Int32.toInt_inj.mp
    simp only [hashDistance] at hd
    omega
  obtain ⟨hi', rfl⟩ := List.getElem?_eq_some_iff.mp hi
  obtain ⟨hj', rfl⟩ := List.getElem?_eq_some_iff.mp hj
  have hlt := List.pairwise_iff_getElem.mp hs
  rcases Nat.lt_trichotomy i j with hij | rfl | hij
  · exact absurd (hhash ▸ hlt i j hi' hj' hij) Int32.lt_irrefl
  · rfl
  · exact absurd (hhash ▸ hlt j i hj' hi' hij) Int32.lt_irrefl

/-- Both layouts give the bucket of a hash. -/
lemma bucket?_eq_find? {bs : List (Bucket k β)}
    (hs : bs.Pairwise (fun b b' => b.hash < b'.hash)) {dense : Bool} {m : SwitchMap k β}
    (h : ofBuckets bs dense = .ok m) (x : Int32) :
    m.bucket? x = bs.find? (fun b => b.hash = x) := by
  obtain ⟨first, last, hfirst, hlast, ⟨-, rfl⟩ | ⟨-, -, rfl⟩⟩ := ofBuckets_eq_ok h
  · rfl
  have hbounds := bounds_of_sorted hs hfirst hlast
  simp only [bucket?]
  by_cases hx : ∃ b ∈ bs, b.hash = x
  · obtain ⟨b, hb, rfl⟩ := hx
    obtain ⟨i, hi⟩ := List.mem_iff_getElem?.mp hb
    have hle := hbounds b hb
    have hge : ¬ b.hash < first.hash := by
      rw [Int32.lt_iff_toInt_lt]
      omega
    have hwidth := hashDistance_lt_width hs hfirst hlast hb
    rw [if_neg hge, getElem?_slotTable hs (fun b hb => (hbounds b hb).1) hi hwidth,
      find?_hash_of_mem hs hb]
    exact hi
  · -- a hash below the table, in a hole of it, or above it
    have hnone : bs.find? (fun b => b.hash = x) = none :=
      List.find?_eq_none.mpr fun b hb h => hx ⟨b, hb, of_decide_eq_true h⟩
    rw [hnone]
    split_ifs with hlt
    · rfl
    · have hne : ∀ p ∈ bs.zipIdx, hashDistance first.hash p.1.hash ≠ hashDistance first.hash x := by
        intro p hp heq
        have hmem := List.fst_mem_of_mem_zipIdx hp
        have hle := hbounds p.1 hmem
        rw [Int32.lt_iff_toInt_lt] at hlt
        simp only [hashDistance] at heq
        exact hx ⟨p.1, hmem, Int32.toInt_inj.mp (by omega)⟩
      rw [slotTable, getElem?_setSlots_of_forall_ne hne, Array.getElem?_replicate]
      split_ifs <;> rfl

/-- A switch map finds the payload of the last entry of a symbol. -/
lemma find?_ofBuckets {entries : List (Symbol k × β)} {dense : Bool} {m : SwitchMap k β}
    (h : ofBuckets (hashBuckets entries) dense = .ok m) (x : Symbol k) :
    m.find? x = lastPayload? entries x := by
  have hbs := wellFormedBuckets_hashBuckets entries
  rw [← bucketPayload?_hashBuckets, find?, bucket?_eq_find? hbs.sorted h, bucketPayload?]
  cases hfind : (hashBuckets entries).find? (fun b => b.hash = x.hash) with
  | none => rfl
  | some b =>
    have hb := hbs.wellFormed b (List.mem_of_find?_eq_some hfind)
    exact hb.resolve_eq (by simpa using List.find?_some hfind)

/-- A strategy only chooses the layout. -/
lemma ofEntries_eq_ok {entries : List (Symbol k × β)} {maxDelta : UInt32} {strategy : Strategy}
    {m : SwitchMap k β} (h : (ofEntries entries maxDelta strategy).result = .ok m) :
    ∃ dense, ofBuckets (hashBuckets entries) dense = .ok m := by
  rw [ofEntries] at h
  split_ifs at h
  · cases h
  · exact ⟨_, h⟩

lemma find?_ofEntries {entries : List (Symbol k × β)} {maxDelta : UInt32} {strategy : Strategy}
    {m : SwitchMap k β} (h : (ofEntries entries maxDelta strategy).result = .ok m) (x : Symbol k) :
    m.find? x = lastPayload? entries x := by
  obtain ⟨dense, hdense⟩ := ofEntries_eq_ok h
  exact find?_ofBuckets hdense x

/-- The map is one of the entries, made in any of the ways in which maps are made. -/
inductive MadeFrom (entries : List (Symbol k × β)) (m : SwitchMap k β) : Prop
  | dense (h : SwitchMap.dense entries = .ok m)
  | sparse (h : SwitchMap.sparse entries = .ok m)
  | chosen (maxDelta : UInt32) (strategy : Strategy)
    (h : (ofEntries entries maxDelta strategy).result = .ok m)

lemma MadeFrom.find?_eq {entries : List (Symbol k × β)} {m : SwitchMap k β}
    (h : m.MadeFrom entries) (x : Symbol k) : m.find? x = lastPayload? entries x := by
  cases h with
  | dense h => exact find?_ofBuckets h x
  | sparse h => exact find?_ofBuckets h x
  | chosen maxDelta strategy h => exact find?_ofEntries h x

/-- A switch map is a last-wins map. However it was made, and however it is laid out, it finds for a
symbol the payload of the last entry whose key is the same, and nothing if there is no such entry;
so two maps of the same entries find the same. -/
theorem finds_last_entry {entries : List (Symbol k × β)} {m : SwitchMap k β}
    (h : m.MadeFrom entries) (x : Symbol k) :
    (∀ v, m.find? x = some v ↔ ∃ before key after, entries = before ++ (key, v) :: after ∧
      key.same x = true ∧ ∀ e ∈ after, e.1.same x = false) ∧
    (m.find? x = none ↔ ∀ e ∈ entries, e.1.same x = false) ∧
    ∀ m' : SwitchMap k β, m'.MadeFrom entries → m'.find? x = m.find? x := by
  rw [h.find?_eq]
  exact ⟨fun _ => lastPayload?_eq_some_iff, lastPayload?_eq_none_iff, fun m' h' => h'.find?_eq x⟩

/-- Keys that share a hash, one of them twice, around the least and the largest hash. -/
def crowdedEntries : List (Int64 × Char) :=
  [(1, 'a'), (4294967296, 'b'), (0, 'c'), (1, 'd'), (-4294967296, 'e'), (2147483648, 'f')]

/-- The two layouts of maps with such keys. -/
theorem finds_last_entry_crowded :
    ∃ sparse chosen dense : SwitchMap .i64 Char,
      SwitchMap.sparse (k := .i64) crowdedEntries = .ok sparse ∧
      (ofEntries (k := .i64) crowdedEntries 10 .auto).result = .ok chosen ∧
      SwitchMap.dense (k := .i64) (crowdedEntries.take 4) = .ok dense ∧
      sparse.find? (k := .i64) 1 = some 'd' ∧
      chosen.find? (k := .i64) (4294967296 : Int64) = some 'b' ∧
      dense.find? (k := .i64) (2 : Int64) = none ∧
      ∀ x : Int64, chosen.find? x = sparse.find? x := by
  obtain ⟨sparse, hsparse⟩ : ∃ m, SwitchMap.sparse (k := .i64) crowdedEntries = .ok m := ⟨_, rfl⟩
  obtain ⟨chosen, hchosen⟩ :
      ∃ m, (ofEntries (k := .i64) crowdedEntries 10 .auto).result = .ok m := ⟨_, rfl⟩
  obtain ⟨dense, hdense⟩ :
      ∃ m, SwitchMap.dense (k := .i64) (crowdedEntries.take 4) = .ok m := ⟨_, rfl⟩
  have hlast := finds_last_entry (.sparse hsparse)
  have hlast' := finds_last_entry (.chosen 10 .auto hchosen)
  refine ⟨sparse, chosen, dense, hsparse, hchosen, hdense, ?_, ?_, ?_, fun x => ?_⟩
  · exact ((hlast _).1 _).mpr ⟨crowdedEntries.take 3, 1, crowdedEntries.drop 4, rfl, rfl, by decide⟩
  · exact ((hlast' _).1 _).mpr
      ⟨crowdedEntries.take 1, 4294967296, crowdedEntries.drop 2, rfl, rfl, by decide⟩
  · exact (finds_last_entry (.dense hdense) _).2.1.mpr (by decide)
  · exact (hlast x).2.2 chosen (.chosen 10 .auto hchosen)

end SwitchMap

end StateMachine
