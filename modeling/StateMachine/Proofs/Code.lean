import StateMachine.Code.Basic
import StateMachine.Proofs.Layout
import StateMachine.Proofs.Plan

/-!
# Code does what its plan does

The code of a plan makes other tests than the plan: it compares hashes where these decide alone,
compares texts directly, finds the slot of a dense switch by a subtraction that may wrap around,
and has no block for the exit. It leads to the same numbers all the same.
-/

namespace StateMachine

variable {σ : Type} {k : Kind}

/-! ### Tests and arms -/

lemma Test.eval_exactly (v x : Symbol k) : (Test.exactly v).eval x = v.same x := by
  cases k with
  | str => simp [exactly, eval, Symbol.same, eq_comm]
  | _ => exact Symbol.same_comm x v

lemma Test.eval_between (a b x : Symbol k) : (Test.between a b).eval x = x.within a b := by
  cases k with
  | str =>
    rw [Bool.eq_iff_iff, Ranking.text.within_iff]
    simp only [between, eval, Bool.and_eq_true, decide_eq_true_eq]
    exact Iff.rfl
  | _ => rfl

/-- Comparing hashes first changes nothing, and is enough if hashes decide alone. -/
lemma Test.eval_single (v x : Symbol k) :
    (if k.comparison.hashIsExact then Test.hashIs v.hash
      else .both (.hashIs v.hash) (.exactly v)).eval x = v.same x := by
  rw [Bool.eq_iff_iff]
  split_ifs with hexact
  · simp only [eval, beq_iff_eq]
    exact ⟨fun h => Symbol.same_of_hash_eq hexact h.symm, fun h => (Symbol.hash_eq_of_same h).symm⟩
  · simp only [eval, eval_exactly, Bool.and_eq_true, beq_iff_eq]
    exact ⟨And.right, fun h => ⟨(Symbol.hash_eq_of_same h).symm, h⟩⟩

lemma Check.evalAll_map {α : Type} {test : α → Test k} {p : α → Symbol k → Bool}
    (h : ∀ a x, (test a).eval x = p a x) (target : α → StateId) (l : List α) (x : Symbol k) :
    evalAll (l.map fun a => ⟨test a, target a⟩) x = (l.find? (p · x)).map target := by
  simp only [evalAll, List.find?_map, Option.map_map, Function.comp_def, h]

lemma Arm.eval_ofBucket (b : Bucket k StateId) (x : Symbol k) :
    (Arm.ofBucket b).eval x = b.resolve x := by
  rw [ofBucket, Bucket.resolve]
  split
  · next e hexact he =>
    rw [hexact, he]
    rfl
  · next hne =>
    split
    · next e hexact he => exact absurd he (hne e hexact)
    · exact Check.evalAll_map (fun e x => Test.eval_exactly e.1 x) Prod.snd b.entries x

/-! ### Selections -/

lemma lookup_map {α β γ : Type} [DecidableEq β] (f : α → β) (g : α → γ) (l : List α) (b : β) :
    (l.map fun a => (f a, g a)).lookup b = (l.find? fun a => f a = b).map g := by
  induction l with
  | nil => rfl
  | cons a l ih =>
    rw [List.map_cons, List.lookup_cons, List.find?_cons, ih]
    by_cases h : f a = b
    · simp [h]
    · simp [h, beq_false_of_ne (Ne.symm h)]

section

variable {α γ : Type}

/-- Arms for the elements of a list, numbered from `n` on; elements without an arm are left out. -/
def numberedArms (g : α → Option γ) (l : List α) (n : Nat) : List (UInt32 × γ) :=
  (l.zipIdx n).filterMap fun e => (g e.1).map (e.2.toUInt32, ·)

variable {g : α → Option γ} {l : List α} {n : Nat} {o : UInt32}

lemma lookup_numberedArms_of_lt (ho : o.toNat < n) (hl : n + l.length ≤ UInt32.size) :
    (numberedArms g l n).lookup o = none := by
  rw [List.lookup_eq_none_iff]
  intro p hp
  obtain ⟨e, he, hpe⟩ := List.mem_filterMap.mp hp
  obtain ⟨c, -, rfl⟩ := Option.map_eq_some_iff.mp hpe
  obtain ⟨hle, hlt, -⟩ := List.mem_zipIdx he
  rw [bne_iff_ne]
  rintro rfl
  rw [Numbering.toNat_toUInt32 (by omega)] at ho
  omega

/-- A number has the arm of its element. Numbers may wrap around behind it, but not before; if no
element is left out, the first one counts. -/
lemma lookup_numberedArms (ho : n ≤ o.toNat)
    (hl : n + l.length ≤ UInt32.size ∨ ∀ a ∈ l, (g a).isSome) :
    (numberedArms g l n).lookup o = (l[o.toNat - n]?).bind g := by
  have hsize : o.toNat < UInt32.size := o.toNat_lt
  induction l generalizing n with
  | nil => simp [numberedArms]
  | cons a l ih =>
    have hn : n.toUInt32.toNat = n := Numbering.toNat_toUInt32 (by omega)
    rcases Nat.eq_or_lt_of_le ho with rfl | hlt
    · rw [Nat.sub_self, List.getElem?_cons_zero, Option.bind_some]
      cases hg : g a with
      | some c =>
        have ho' : o.toNat.toUInt32 = o := UInt32.toNat_inj.mp hn
        simp [numberedArms, hg, ho']
      | none =>
        -- a number without an arm: no later one may come round to it
        rcases hl with hl | hl
        · rw [List.length_cons] at hl
          have hnone := lookup_numberedArms_of_lt (g := g) (l := l) (Nat.lt_succ_self o.toNat)
            (by omega)
          simpa [numberedArms, hg] using hnone
        · simpa [hg] using hl a
    · have hne : (o == n.toUInt32) = false := by
        rw [beq_eq_false_iff_ne]
        rintro rfl
        omega
      have hskip : (numberedArms g (a :: l) n).lookup o = (numberedArms g l (n + 1)).lookup o := by
        cases hg : g a <;> simp [numberedArms, hg, List.lookup_cons, hne]
      have hl' : n + 1 + l.length ≤ UInt32.size ∨ ∀ a ∈ l, (g a).isSome := by
        rcases hl with hl | hl
        · exact Or.inl (by rw [List.length_cons] at hl; omega)
        · exact Or.inr fun b hb => hl b (List.mem_cons_of_mem a hb)
      rw [hskip, ih hlt hl', show o.toNat - n = o.toNat - (n + 1) + 1 by omega,
        List.getElem?_cons_succ]

end

/-- The distance of a hash from an origin, as a word: it wraps around for lesser hashes. -/
lemma toNat_offset (a b : Int32) :
    ((a - b).toUInt32.toNat : Int)
      = if b.toInt ≤ a.toInt then a.toInt - b.toInt else UInt32.size + a.toInt - b.toInt := by
  change ((a.toBitVec - b.toBitVec).toNat : Int) = if b.toBitVec.toInt ≤ a.toBitVec.toInt
    then a.toBitVec.toInt - b.toBitVec.toInt else 4294967296 + a.toBitVec.toInt - b.toBitVec.toInt
  have ha := a.toBitVec.isLt
  have hb := b.toBitVec.isLt
  rw [BitVec.toNat_sub, BitVec.toInt_eq_toNat_cond, BitVec.toInt_eq_toNat_cond]
  omega

namespace Selection

/-- What the slots of a dense map hold, as arms. -/
def slotArm (bs : List (Bucket k StateId)) (slot : Option Nat) : Option (Arm k) :=
  (slot.bind (bs[·]?)).map Arm.ofBucket

/-- The arms of a dense map are those of its slots: no hash in its width wraps around. -/
lemma arms_dense {bs : List (Bucket k StateId)} {slots : Array (Option Nat)} {min max : Int32}
    (hwidth : min.toInt + slots.size ≤ Int32.maxValue.toInt + 1) :
    ((⟨bs, slots, .dense min max⟩ : SwitchMap k StateId).cases.filterMap fun c =>
      c.2.map fun b => ((hashDistance min c.1).toUInt32, Arm.ofBucket b))
        = numberedArms (slotArm bs) slots.toList 0 := by
  rw [SwitchMap.cases, List.filterMap_map, numberedArms]
  apply List.filterMap_congr
  intro e he
  have hlt : e.2 < slots.size := by simpa using (List.mem_zipIdx he).2.1
  simp only [Function.comp_apply, slotArm, Option.map_map]
  rw [hashDistance_ofInt (by omega)]
  rfl

/-- A hash finds the same slot by a wrapping subtraction as by its distance from the least hash:
whatever lies below that is sent beyond the last slot. -/
lemma slot_offset {slots : Array (Option Nat)} {min : Int32}
    (hwidth : min.toInt + slots.size ≤ Int32.maxValue.toInt + 1) (h : Int32) :
    slots[(h - min).toUInt32.toNat]?
      = if h < min then none else slots[hashDistance min h]? := by
  have hoffset := toNat_offset h min
  have hbound := h.le_toInt
  have hsize : (UInt32.size : Int) = 2 ^ 32 := rfl
  have hmax : Int32.maxValue.toInt = 2 ^ 31 - 1 := rfl
  by_cases hlt : h < min
  · have hlt' := Int32.lt_iff_toInt_lt.mp hlt
    rw [if_neg (by omega)] at hoffset
    rw [if_pos hlt, Array.getElem?_eq_none (by omega)]
  · have hle : min.toInt ≤ h.toInt := Int.not_lt.mp fun hc => hlt (Int32.lt_iff_toInt_lt.mpr hc)
    rw [if_pos hle] at hoffset
    rw [if_neg hlt, hashDistance, ← hoffset, Int.toNat_natCast]

lemma eval_ofMap {bs : List (Bucket k StateId)} {dense : Bool} {m : SwitchMap k StateId}
    (h : SwitchMap.ofBuckets bs dense = .ok m) (x : Symbol k) :
    (Selection.ofMap m).eval x = m.find? x := by
  obtain ⟨first, last, hfirst, hlast, ⟨-, rfl⟩ | ⟨-, hspan, rfl⟩⟩ := SwitchMap.ofBuckets_eq_ok h
  · simp only [ofMap, eval, SwitchMap.find?, SwitchMap.bucket?, lookup_map, Option.bind_eq_bind,
      Option.bind_map, Function.comp_def, Arm.eval_ofBucket]
  · have hsize := SwitchMap.size_slotTable first.hash (hashSpan bs + 1) bs
    generalize SwitchMap.slotTable first.hash (hashSpan bs + 1) bs = slots at hsize
    -- the table ends with the last hash, so that no hash wraps around inside it
    have hwidth : first.hash.toInt + slots.size ≤ Int32.maxValue.toInt + 1 := by
      have hlast' := last.hash.toInt_lt
      have hfirst' := first.hash.toInt_lt
      have hmax : Int32.maxValue.toInt = 2 ^ 31 - 1 := rfl
      simp only [hsize, hashSpan, hfirst, hlast, hashDistance]
      omega
    have hbound : 0 + slots.toList.length ≤ UInt32.size := by
      rw [Array.length_toList, hsize]
      simp only [SwitchMap.maxSlots] at hspan
      have hword : UInt32.size = 4294967296 := rfl
      omega
    simp only [ofMap, eval, SwitchMap.find?, SwitchMap.bucket?, arms_dense hwidth]
    rw [lookup_numberedArms (Nat.zero_le _) (Or.inl hbound), Nat.sub_zero, Array.getElem?_toList,
      slot_offset hwidth]
    split_ifs with hlt
    · rfl
    · simp only [slotArm, Option.bind_eq_bind, Option.bind_assoc, Option.bind_map,
        Function.comp_def, Arm.eval_ofBucket]

end Selection

/-! ### Blocks -/

/-- The code of a branch leads where the branch leads. -/
lemma Block.eval_ofBranch {config : Config} {edges : List (StateId × Guard k)} {fallback : StateId}
    {b : Branch k} (h : (Branch.ofEdges config edges fallback).result = .ok b) (x : Symbol k) :
    (Block.ofBranch b).eval x = b.transit x := by
  rcases Branch.ofEdges_eq_ok h with ⟨rfl, rfl⟩ | ⟨target, value, rfl, rfl⟩ | ⟨map, hmap, rfl⟩
  · rfl
  · simp only [ofBranch, eval, Test.eval_single, Branch.transit]
  · obtain ⟨dense, hdense⟩ := SwitchMap.ofEntries_eq_ok hmap
    simp only [ofBranch, eval, Selection.eval_ofMap hdense, Branch.transit]
    cases map.find? x with
    | some target => rfl
    | none =>
      rw [Check.evalAll_map fun (arm : RangeArm k) x => Test.eval_between arm.start arm.stop x]
      cases (rangeArms edges).find? fun arm => x.within arm.start arm.stop with
      | some arm => rfl
      | none => rfl

namespace Code

variable {c : Compiler} {m : Model σ k} {n : Numbering σ} {p : Plan k} [DecidableEq σ] [Label σ]

lemma eval_ofBranch_of_plan (h : (c.plan m).result = .ok (n, p)) {b : Branch k}
    (hb : b ∈ p.branches) (x : Symbol k) : (Block.ofBranch b).eval x = b.transit x := by
  obtain ⟨-, branches, rfl, hbranches⟩ := Compiler.plan_eq_ok h
  rcases List.mem_cons.mp hb with rfl | hb
  · rfl
  · obtain ⟨j, hj, rfl⟩ := List.getElem_of_mem hb
    have hs := hbranches.get (by rwa [hbranches.length_eq]) hj
    exact Block.eval_ofBranch (Branch.ofState_eq_ok hs).2.2 x

/-- The blocks of a plan are those of its branches, without the first one. -/
lemma blocks_ofPlan (p : Plan k) :
    (ofPlan p).blocks = numberedArms (fun b => some (Block.ofBranch b)) (p.branches.drop 1) 1 := by
  rw [ofPlan, numberedArms]
  cases p.branches with
  | nil => rfl
  | cons b bs => simp

/-- From any number but that of the exit, the code leads where its branch leads. The first block of
a number is the right one, even if the numbers wrap around behind it. -/
lemma eval_of_branch? (h : (c.plan m).result = .ok (n, p)) {i : StateId} (hi : i ≠ exitId)
    {b : Branch k} (hb : p.branch? i = some b) (x : Symbol k) :
    (ofPlan p).eval i x = b.transit x := by
  have hpos : 1 ≤ i.toNat := by
    rw [Nat.one_le_iff_ne_zero]
    exact fun hc => hi (UInt32.toNat_inj.mp hc)
  have hdrop : (p.branches.drop 1)[i.toNat - 1]? = some b := by
    rw [List.getElem?_drop, Nat.add_sub_cancel' hpos]
    exact hb
  rw [eval, blocks_ofPlan, lookup_numberedArms hpos (Or.inr (by simp)), hdrop]
  exact eval_ofBranch_of_plan h (List.mem_of_getElem? hb) x

/-- The code of a plan leads where the plan leads, from every number and for every symbol. The exit
needs the states to have numbers of their own: as it has no block, its number would be taken by the
block of another state if numbers wrapped around. -/
theorem eval_ofPlan (h : (c.plan m).result = .ok (n, p)) {i : StateId}
    (hi : i ≠ exitId ∨ m.stateCount ≤ UInt32.size) (x : Symbol k) :
    (ofPlan p).eval i x = p.transit i x := by
  have hlength := Compiler.length_branches_of_plan h
  have hblock := fun b hb => eval_ofBranch_of_plan h (b := b) hb x
  obtain ⟨-, branches, rfl, -⟩ := Compiler.plan_eq_ok h
  rw [eval, blocks_ofPlan, Plan.transit, Plan.branch?, List.drop_one, List.tail_cons]
  by_cases hexit : i = exitId
  · -- the exit has no block, and no other state has its number
    have hsize : 1 + branches.length ≤ UInt32.size := by
      rw [List.length_cons] at hlength
      have hcount := hi.resolve_left (not_not.mpr hexit)
      omega
    rw [hexit, lookup_numberedArms_of_lt Nat.zero_lt_one hsize]
    rfl
  · -- the first block of a number is the right one, even if the numbers wrap around behind it
    have hpos : 1 ≤ i.toNat := by
      rw [Nat.one_le_iff_ne_zero]
      exact fun hc => hexit (UInt32.toNat_inj.mp hc)
    rw [lookup_numberedArms hpos (Or.inr (by simp)), ← Nat.sub_add_cancel hpos,
      List.getElem?_cons_succ, Nat.add_sub_cancel]
    cases hb : branches[i.toNat - 1]? with
    | none => rfl
    | some b => exact hblock b (List.mem_cons_of_mem _ (List.mem_of_getElem? hb))

/-- Hashes at the upper end of their range, so that the offset of every lesser one wraps around. -/
def brinkModel : Model Int32 .i32 where
  init := ⟨0, [⟨9, .single 2147483647⟩, ⟨1, .range 2147483640 2147483645⟩], none⟩
  exit := 9
  states := [⟨1, [], some 9⟩]

theorem eval_ofPlan_brink :
    ∃ n p, (Compiler.plan ⟨⟨10, .dense, Kind.all⟩, none⟩ brinkModel).result = .ok (n, p) ∧
      ∀ i x, (ofPlan p).eval i x = p.transit i x := by
  obtain ⟨⟨n, p⟩, h⟩ :
      ∃ r, (Compiler.plan ⟨⟨10, .dense, Kind.all⟩, none⟩ brinkModel).result = .ok r := ⟨_, rfl⟩
  exact ⟨n, p, h, fun i x => eval_ofPlan h (Or.inr (by decide)) x⟩

end Code

end StateMachine
