import Mathlib.Data.Set.Card
import Mathlib.Data.String.Basic
import Mathlib.Tactic.Common
import StateMachine.Symbol

/-!
# Laws of symbols

Sameness is an equivalence that the switch hash respects, and for kinds of at most thirty-two bits
the hash decides it. The symbols of an orderable kind are ranked in a linear order, up to sameness;
all that ranges need follows from the ranking.
-/

namespace StateMachine

variable {k : Kind}

lemma Binary32.toNat_canonical (x : Binary32) :
    x.canonical.toNat = Format.binary32.canonical x.bits.toNat := by
  apply UInt32.toNat_ofNat_of_lt'
  rw [Format.canonical]
  split_ifs
  · decide
  · exact x.bits.toNat_lt

lemma Binary64.toNat_canonical (x : Binary64) :
    x.canonical.toNat = Format.binary64.canonical x.bits.toNat := by
  apply UInt64.toNat_ofNat_of_lt'
  rw [Format.canonical]
  split_ifs
  · decide
  · exact x.bits.toNat_lt

namespace Symbol

/-! ### Sameness -/

@[simp] lemma same_refl (x : Symbol k) : x.same x = true := by
  cases k <;> simp [same]

lemma same_symm {x y : Symbol k} (h : x.same y = true) : y.same x = true := by
  cases k <;> simp only [same, decide_eq_true_eq] at h ⊢ <;> exact h.symm

lemma same_comm (x y : Symbol k) : x.same y = y.same x :=
  Bool.eq_iff_iff.mpr ⟨same_symm, same_symm⟩

lemma same_trans {x y z : Symbol k} (hxy : x.same y = true) (hyz : y.same z = true) :
    x.same z = true := by
  cases k <;> simp only [same, decide_eq_true_eq] at hxy hyz ⊢ <;> exact hxy.trans hyz

/-- Symbols that are the same are told from others alike. -/
lemma same_congr_left {x y : Symbol k} (h : x.same y = true) (z : Symbol k) :
    x.same z = y.same z :=
  Bool.eq_iff_iff.mpr ⟨same_trans (same_symm h), same_trans h⟩

lemma same_congr_right {x y : Symbol k} (h : x.same y = true) (z : Symbol k) :
    z.same x = z.same y := by
  rw [same_comm z x, same_comm z y, same_congr_left h]

/-! ### Classes -/

/-- Sameness as an equivalence. -/
def sameness (k : Kind) : Setoid (Symbol k) :=
  ⟨fun x y => x.same y = true, same_refl, same_symm, same_trans⟩

lemma mk_eq_mk_iff {v w : Symbol k} :
    Quotient.mk (sameness k) v = Quotient.mk (sameness k) w ↔ v.same w = true :=
  ⟨Quotient.exact, fun h => Quotient.sound h⟩

/-- The classes of sameness that have a symbol in the list. -/
def classes (vs : List (Symbol k)) : Set (Quotient (sameness k)) :=
  {c | ∃ v ∈ vs, Quotient.mk (sameness k) v = c}

lemma mk_mem_classes {vs : List (Symbol k)} {x : Symbol k} :
    Quotient.mk (sameness k) x ∈ classes vs ↔ ∃ v ∈ vs, v.same x = true := by
  simp only [classes, Set.mem_ofPred_eq, mk_eq_mk_iff]

lemma classes_eq_iff {vs ws : List (Symbol k)} :
    classes vs = classes ws ↔
      (∀ v ∈ vs, ∃ w ∈ ws, v.same w = true) ∧ ∀ w ∈ ws, ∃ v ∈ vs, v.same w = true := by
  constructor
  · intro h
    constructor
    · intro v hv
      obtain ⟨w, hw, hsame⟩ := mk_mem_classes.mp (h ▸ mk_mem_classes.mpr ⟨v, hv, same_refl v⟩)
      exact ⟨w, hw, same_symm hsame⟩
    · intro w hw
      exact mk_mem_classes.mp (h ▸ mk_mem_classes.mpr ⟨w, hw, same_refl w⟩)
  · rintro ⟨hvs, hws⟩
    apply Set.Subset.antisymm
    · rintro - ⟨v, hv, rfl⟩
      obtain ⟨w, hw, hsame⟩ := hvs v hv
      exact ⟨w, hw, Quotient.sound (same_symm hsame)⟩
    · rintro - ⟨w, hw, rfl⟩
      obtain ⟨v, hv, hsame⟩ := hws w hw
      exact ⟨v, hv, Quotient.sound hsame⟩

/-- There are as many classes as symbols that stand for them, one for each. -/
lemma ncard_classes {ws vs : List (Symbol k)}
    (hdistinct : ws.Pairwise fun w w' => w.same w' = false)
    (hsame : ∀ x, (∃ w ∈ ws, w.same x = true) ↔ ∃ v ∈ vs, v.same x = true) :
    (classes vs).ncard = ws.length := by
  classical
  have hclasses : classes vs = {c | c ∈ ws.map (Quotient.mk (sameness k))} := by
    ext c
    obtain ⟨x, rfl⟩ := Quotient.exists_rep c
    rw [mk_mem_classes, ← hsame, ← mk_mem_classes]
    simp [classes]
  have hnodup : (ws.map (Quotient.mk (sameness k))).Nodup := by
    apply List.pairwise_map.mpr
    apply hdistinct.imp
    intro w w' h heq
    rw [show w.same w' = true from Quotient.exact heq] at h
    cases h
  rw [hclasses, ← List.coe_toFinset, Set.ncard_coe_finset, List.toFinset_card_of_nodup hnodup,
    List.length_map]

/-! ### Hashes -/

lemma hash_eq_of_same {x y : Symbol k} (h : x.same y = true) : x.hash = y.hash := by
  cases k <;> simp only [same, decide_eq_true_eq] at h <;> simp [hash, h]

lemma toInt32_injective : Function.Injective UInt32.toInt32 := by
  intro a b h
  have hbits := congrArg Int32.toBitVec h
  simpa [UInt32.toBitVec_inj] using hbits

/-- Where the hash decides alone, it does so rightly. -/
lemma same_of_hash_eq (hk : k.comparison.hashIsExact = true) {x y : Symbol k}
    (h : x.hash = y.hash) : x.same y = true := by
  cases k with
  | bool => cases x <;> cases y <;> simp_all [hash, same]
  | char => simpa [same] using Char.ext (toInt32_injective h)
  | i8 =>
    have hint := congrArg Int32.toInt h
    simp only [hash, Int8.toInt_toInt32] at hint
    simpa [same] using Int8.toInt_inj.mp hint
  | i16 =>
    have hint := congrArg Int32.toInt h
    simp only [hash, Int16.toInt_toInt32] at hint
    simpa [same] using Int16.toInt_inj.mp hint
  | i32 => simpa [hash, same] using h
  | u8 =>
    have hnat := congrArg UInt32.toNat (toInt32_injective h)
    simp only [UInt8.toNat_toUInt32] at hnat
    simpa [same] using UInt8.toNat_inj.mp hnat
  | u16 =>
    have hnat := congrArg UInt32.toNat (toInt32_injective h)
    simp only [UInt16.toNat_toUInt32] at hnat
    simpa [same] using UInt16.toNat_inj.mp hnat
  | u32 => simpa [same] using toInt32_injective h
  | f32 => simpa [same] using toInt32_injective h
  | i64 | u64 | f64 | str => simp [Kind.comparison, Comparison.hashIsExact] at hk

end Symbol

/-! ### Order -/

/-- The place in the total order tells patterns of a format apart. -/
lemma Format.orderKey_inj (f : Format) {a b : Nat} (ha : a < 2 * f.signWeight)
    (hb : b < 2 * f.signWeight) (h : f.orderKey a = f.orderKey b) : a = b := by
  have hmod : ∀ c, c < 2 * f.signWeight →
      f.magnitude c = if f.isNegative c then c - f.signWeight else c := by
    intro c hc
    simp only [magnitude, isNegative, decide_eq_true_eq]
    split_ifs with hneg
    · rw [Nat.mod_eq_sub_mod hneg, Nat.mod_eq_of_lt (by omega)]
    · exact Nat.mod_eq_of_lt (by omega)
  simp only [orderKey, hmod a ha, hmod b hb] at h
  simp only [isNegative, decide_eq_true_eq] at h
  split_ifs at h <;> omega

/-- A linear order in which the symbols of a kind are ranked. -/
structure Ranking (k : Kind) where
  Rank : Type
  order : LinearOrder Rank
  rank : Symbol k → Rank
  /-- Symbols are compared by rank. -/
  order?_eq : ∀ x y : Symbol k, x.order? y = some (compare (rank x) (rank y))
  /-- Symbols of one rank are the same. -/
  same_iff : ∀ x y : Symbol k, x.same y = true ↔ rank x = rank y

attribute [instance] Ranking.order

/-- A ranking by a key, for symbols that are the same only if they are equal. -/
def Ranking.ofKey {ρ : Type} [LinearOrder ρ] (key : Symbol k → ρ)
    (horder : ∀ x y : Symbol k, x.order? y = some (compare (key x) (key y)))
    (hsame : ∀ x y : Symbol k, x.same y = decide (x = y)) (hkey : Function.Injective key) :
    Ranking k where
  Rank := ρ
  order := inferInstance
  rank := key
  order?_eq := horder
  same_iff x y := by rw [hsame, decide_eq_true_eq, hkey.eq_iff]

/-- Texts are their own ranks. -/
def Ranking.text : Ranking .str :=
  .ofKey (fun s : String => s)
    (fun x y => congrArg some (LinearOrder.compare_eq_compareOfLessAndEq x y).symm)
    (fun _ _ => rfl) fun _ _ h => h

/-- The symbols of an orderable kind can be ranked. -/
lemma exists_ranking (hk : k.isOrderable = true) : Nonempty (Ranking k) := by
  cases k with
  | bool => simp [Kind.isOrderable] at hk
  | char =>
    exact ⟨.ofKey Char.toNat (fun _ _ => rfl) (fun _ _ => rfl) fun _ _ => Char.toNat_inj.mp⟩
  | i8 =>
    exact ⟨.ofKey Int8.toInt (fun _ _ => rfl) (fun _ _ => rfl) fun _ _ => Int8.toInt_inj.mp⟩
  | i16 =>
    exact ⟨.ofKey Int16.toInt (fun _ _ => rfl) (fun _ _ => rfl) fun _ _ => Int16.toInt_inj.mp⟩
  | i32 =>
    exact ⟨.ofKey Int32.toInt (fun _ _ => rfl) (fun _ _ => rfl) fun _ _ => Int32.toInt_inj.mp⟩
  | i64 =>
    exact ⟨.ofKey Int64.toInt (fun _ _ => rfl) (fun _ _ => rfl) fun _ _ => Int64.toInt_inj.mp⟩
  | u8 =>
    exact ⟨.ofKey UInt8.toNat (fun _ _ => rfl) (fun _ _ => rfl) fun _ _ => UInt8.toNat_inj.mp⟩
  | u16 =>
    exact ⟨.ofKey UInt16.toNat (fun _ _ => rfl) (fun _ _ => rfl) fun _ _ => UInt16.toNat_inj.mp⟩
  | u32 =>
    exact ⟨.ofKey UInt32.toNat (fun _ _ => rfl) (fun _ _ => rfl) fun _ _ => UInt32.toNat_inj.mp⟩
  | u64 =>
    exact ⟨.ofKey UInt64.toNat (fun _ _ => rfl) (fun _ _ => rfl) fun _ _ => UInt64.toNat_inj.mp⟩
  | f32 =>
    refine ⟨⟨Int, inferInstance, Binary32.orderKey, fun _ _ => rfl, fun x y => ?_⟩⟩
    simp only [Symbol.same, decide_eq_true_eq]
    refine ⟨fun h => by rw [Binary32.orderKey, Binary32.orderKey, h], fun h => ?_⟩
    exact UInt32.toNat_inj.mp
      (Format.orderKey_inj .binary32 (UInt32.toNat_lt _) (UInt32.toNat_lt _) h)
  | f64 =>
    refine ⟨⟨Int, inferInstance, Binary64.orderKey, fun _ _ => rfl, fun x y => ?_⟩⟩
    simp only [Symbol.same, decide_eq_true_eq]
    refine ⟨fun h => by rw [Binary64.orderKey, Binary64.orderKey, h], fun h => ?_⟩
    exact UInt64.toNat_inj.mp
      (Format.orderKey_inj .binary64 (UInt64.toNat_lt _) (UInt64.toNat_lt _) h)
  | str => exact ⟨.text⟩

namespace Ranking

variable (r : Ranking k)

lemma within_iff (x a b : Symbol k) :
    x.within a b = true ↔ r.rank a ≤ r.rank x ∧ r.rank x ≤ r.rank b := by
  simp only [Symbol.within, r.order?_eq, Bool.and_eq_true, Bool.or_eq_true, beq_iff_eq,
    Option.some.injEq, compare_gt_iff_gt, compare_lt_iff_lt, compare_eq_iff_eq]
  rw [le_iff_lt_or_eq, le_iff_lt_or_eq, eq_comm (a := r.rank a)]

lemma order?_eq_lt_iff (a b : Symbol k) : a.order? b = some .lt ↔ r.rank a < r.rank b := by
  rw [r.order?_eq, Option.some.injEq, compare_lt_iff_lt]

end Ranking

namespace Symbol

/-- Symbols are compared by what they are the same as. -/
lemma order?_congr {a b c d : Symbol k} (hac : a.same c = true) (hbd : b.same d = true) :
    a.order? b = c.order? d := by
  by_cases hk : k.isOrderable = true
  · obtain ⟨r⟩ := exists_ranking hk
    rw [r.order?_eq, r.order?_eq, (r.same_iff a c).mp hac, (r.same_iff b d).mp hbd]
  · -- truth values have no order
    obtain rfl : k = .bool := by simpa [Kind.isOrderable] using hk
    rfl

lemma within_congr {x y a b c d : Symbol k} (hxy : x.same y = true) (hac : a.same c = true)
    (hbd : b.same d = true) : x.within a b = y.within c d := by
  simp only [within, order?_congr hxy hac, order?_congr hxy hbd]

/-! ### Laws -/

/-- A symbol comes before another one, or they are equal in order. -/
def AtMost (x y : Symbol k) : Prop := x.order? y = some .lt ∨ x.order? y = some .eq

/-- The symbols of a kind are in a total order, up to sameness. -/
structure Ordered (k : Kind) : Prop where
  total (x y : Symbol k) : x.AtMost y ∨ y.AtMost x
  antisymm (x y : Symbol k) : x.AtMost y → y.AtMost x → x.same y = true
  trans (x y z : Symbol k) : x.AtMost y → y.AtMost z → x.AtMost z
  swap (x y : Symbol k) : x.order? y = (y.order? x).map Ordering.swap
  eq_iff (x y : Symbol k) : x.order? y = some .eq ↔ x.same y = true

end Symbol

namespace Ranking

lemma atMost_iff (r : Ranking k) (x y : Symbol k) :
    x.AtMost y ↔ r.rank x ≤ r.rank y := by
  simp only [Symbol.AtMost, r.order?_eq, Option.some.injEq, compare_lt_iff_lt, compare_eq_iff_eq]
  exact le_iff_lt_or_eq.symm

lemma ordered (r : Ranking k) : Symbol.Ordered k where
  total x y := by
    simp only [r.atMost_iff]
    exact le_total _ _
  antisymm x y hxy hyx := by
    rw [r.atMost_iff] at hxy hyx
    exact (r.same_iff x y).mpr (le_antisymm hxy hyx)
  trans x y z hxy hyz := by
    rw [r.atMost_iff] at hxy hyz ⊢
    exact le_trans hxy hyz
  swap x y := by
    rw [r.order?_eq, r.order?_eq, Option.map_some, Std.OrientedOrd.eq_swap]
  eq_iff x y := by
    rw [r.order?_eq, Option.some.injEq, compare_eq_iff_eq, r.same_iff]

end Ranking

/-- What holds of the symbols of every kind: sameness is an equivalence, the hash does not tell
symbols apart that are the same, and where it decides alone it tells all others apart. All kinds but
truth values have a total order, in which symbols are equal exactly if they are the same; so ranges
do not tell such symbols apart either. -/
theorem Symbol.value_laws (k : Kind) :
    Equivalence (fun x y : Symbol k => x.same y = true) ∧
      (∀ x y : Symbol k, x.same y = true → x.hash = y.hash) ∧
      (k.comparison = .identity → ∀ x y : Symbol k, x.hash = y.hash → x.same y = true) ∧
      (k.isOrderable = true → Symbol.Ordered k) ∧
      (k = .bool → ∀ x y : Symbol k, x.order? y = none) ∧
      ∀ x x' a a' b b' : Symbol k, x.same x' = true → a.same a' = true → b.same b' = true →
        x.within a b = x'.within a' b' := by
  refine ⟨(sameness k).iseqv, fun x y => hash_eq_of_same, ?_, ?_, ?_, ?_⟩
  · intro hk x y
    exact same_of_hash_eq (by simp [hk, Comparison.hashIsExact])
  · intro hk
    obtain ⟨r⟩ := exists_ranking hk
    exact r.ordered
  · rintro rfl x y
    rfl
  · intro x x' a a' b b' hx ha hb
    exact within_congr hx ha hb

/-- NaNs of either sign and with any payload are one symbol, and it is above the infinities. -/
theorem Symbol.value_laws_nan :
    @Symbol.same .f32 ⟨0xFF800001⟩ ⟨0x7FC00000⟩ = true ∧
      @Symbol.hash .f32 ⟨0xFF800001⟩ = @Symbol.hash .f32 ⟨0x7FC00000⟩ ∧
      @Symbol.order? .f32 ⟨0xFF800001⟩ ⟨0x7FC00000⟩ = some .eq ∧
      @Symbol.AtMost .f32 ⟨0xFF800000⟩ ⟨0xFF800001⟩ ∧
      ∀ a b, @Symbol.within .f32 ⟨0xFF800001⟩ a b = @Symbol.within .f32 ⟨0x7FC00000⟩ a b := by
  obtain ⟨-, hhash, hexact, horder, -, hwithin⟩ := Symbol.value_laws .f32
  have hsame : @Symbol.same .f32 ⟨0xFF800001⟩ ⟨0x7FC00000⟩ = true := by decide
  refine ⟨hsame, hhash _ _ hsame, ((horder rfl).eq_iff _ _).mpr hsame, ?_, ?_⟩
  · have hlow : @Symbol.AtMost .f32 ⟨0xFF800000⟩ ⟨0x7F800000⟩ := Or.inl (by decide)
    have hhigh : @Symbol.AtMost .f32 ⟨0x7F800000⟩ ⟨0xFF800001⟩ := Or.inl (by decide)
    exact (horder rfl).trans _ _ _ hlow hhigh
  · intro a b
    exact hwithin _ _ a a b b hsame (Symbol.same_refl a) (Symbol.same_refl b)

end StateMachine
