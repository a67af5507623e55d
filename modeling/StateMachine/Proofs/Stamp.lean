import StateMachine.Machine
import StateMachine.Proofs.Plan

/-!
# Stamps tell the exit until they wrap

The stamp of a run that meets the exit is minus one. Any other stamp is a hash of the states on the
way, and since the hash wraps it is minus one on some ways that never meet the exit. A way like
that is long: without wrapping, its hash does not fit into a word.
-/

namespace StateMachine

variable {σ : Type} {k : Kind}

/-! ### Hashes of ways -/

/-- The hash of the states on a way, wrapping in a signed word. -/
def rollingHash (ids : List StateId) : Int64 :=
  ids.foldl (fun h i => h * 31 + i.toUInt64.toInt64) 1

/-- The hash of the states on a way, without wrapping. -/
def fullHash (ids : List StateId) : Nat := ids.foldl (fun h i => h * 31 + i.toNat) 1

lemma toInt64_toUInt64 (i : StateId) : i.toUInt64.toInt64 = Int64.ofNat i.toNat := by
  rw [← Int64.toBitVec_inj, Int64.toBitVec_ofNat', ← BitVec.toNat_inj]
  simp

lemma rollingHash_eq (ids : List StateId) : rollingHash ids = Int64.ofNat (fullHash ids) := by
  show List.foldl _ (Int64.ofNat 1) ids = Int64.ofNat (List.foldl _ 1 ids)
  apply List.foldl_hom
  intro h i
  rw [Int64.ofNat_add, Int64.ofNat_mul, toInt64_toUInt64]
  rfl

lemma rollingHash_eq_neg_one_iff {ids : List StateId} :
    rollingHash ids = -1 ↔ fullHash ids % 2 ^ 64 = 2 ^ 64 - 1 := by
  rw [rollingHash_eq, ← Int64.toBitVec_inj, Int64.toBitVec_ofNat', ← BitVec.toNat_inj]
  simp

/-- Each state on the way multiplies the hash by no more than thirty-one, up to a constant. -/
lemma foldl_hash_le {N : Nat} {ids : List StateId} (hids : ∀ i ∈ ids, i.toNat ≤ N) (h : Nat) :
    30 * ids.foldl (fun h i => h * 31 + i.toNat) h + N ≤ 31 ^ ids.length * (30 * h + N) := by
  induction ids generalizing h with
  | nil => simp
  | cons i ids ih =>
    have hi : i.toNat ≤ N := hids i List.mem_cons_self
    calc 30 * (i :: ids).foldl (fun h i => h * 31 + i.toNat) h + N
        ≤ 31 ^ ids.length * (30 * (h * 31 + i.toNat) + N) :=
          ih (fun j hj => hids j (List.mem_cons_of_mem _ hj)) _
      _ ≤ 31 ^ ids.length * (31 * (30 * h + N)) := Nat.mul_le_mul_left _ (by omega)
      _ = 31 ^ (i :: ids).length * (30 * h + N) := by
          rw [List.length_cons, Nat.pow_succ, Nat.mul_assoc]

lemma fullHash_lt {N : Nat} (hN : 2 ≤ N) {ids : List StateId} (hids : ∀ i ∈ ids, i.toNat < N) :
    fullHash ids < 31 ^ ids.length * N := by
  have hle := foldl_hash_le (N := N - 1) (fun i hi => Nat.le_pred_of_lt (hids i hi)) 1
  have hpos : 0 < 31 ^ ids.length := Nat.pow_pos (by decide)
  rw [← fullHash] at hle
  have hlt : 31 ^ ids.length * (30 * 1 + (N - 1)) < 31 ^ ids.length * (30 * N) :=
    Nat.mul_lt_mul_of_pos_left (by omega) hpos
  rw [Nat.mul_left_comm] at hlt
  omega

/-! ### Ways of a dispatcher -/

namespace Dispatcher

variable (d : Dispatcher σ k)

/-- The states entered from a state, one for each symbol. -/
def visited (i : StateId) : List (Symbol k) → List StateId
  | [] => []
  | x :: xs => d.transit i x :: visited (d.transit i x) xs

variable {d} {i : StateId} {xs : List (Symbol k)}

lemma knows_exitId : d.knows exitId = true := by
  have := d.numbering.two_le_length
  exact decide_eq_true (show 0 < d.numbering.values.length by omega)

lemma knows_initId : d.knows initId = true :=
  decide_eq_true d.numbering.two_le_length

lemma knows_transit (i : StateId) (x : Symbol k) : d.knows (d.transit i x) = true := by
  rw [transit]
  split_ifs with h
  · exact h
  · exact knows_exitId

@[simp] lemma length_visited : (d.visited i xs).length = xs.length := by
  induction xs generalizing i with
  | nil => rfl
  | cons x xs ih => simp [visited, ih]

lemma knows_of_mem_visited {j : StateId} (hj : j ∈ d.visited i xs) : d.knows j = true := by
  induction xs generalizing i with
  | nil => simp [visited] at hj
  | cons x xs ih =>
    rcases List.mem_cons.mp hj with rfl | hj
    · exact knows_transit i x
    · exact ih hj

lemma knows_runFrom (hi : d.knows i = true) : d.knows (d.runFrom i xs) = true := by
  induction xs generalizing i with
  | nil => exact hi
  | cons x xs ih =>
    rw [runFrom]
    split_ifs
    · exact knows_exitId
    · exact ih (knows_transit i x)

/-- A run ends at the exit if it meets the exit. -/
lemma runFrom_eq_exitId_iff (hi : i ≠ exitId) :
    d.runFrom i xs = exitId ↔ exitId ∈ d.visited i xs := by
  induction xs generalizing i with
  | nil => simp [runFrom, visited, hi]
  | cons x xs ih =>
    rw [runFrom, visited, List.mem_cons]
    split_ifs with hnext
    · simp [hnext]
    · rw [ih hnext, or_iff_right (Ne.symm hnext)]

/-- A stamp is minus one on a way that meets the exit, and a hash of the way otherwise. -/
lemma stampFrom_eq (h : Int64) :
    d.stampFrom i h xs =
      if exitId ∈ d.visited i xs then -1
      else (d.visited i xs).foldl (fun h i => h * 31 + i.toUInt64.toInt64) h := by
  induction xs generalizing i h with
  | nil => simp [stampFrom, visited]
  | cons x xs ih =>
    rw [stampFrom, visited, List.foldl_cons]
    by_cases hnext : d.transit i x = exitId
    · simp [hnext]
    · simp only [if_neg hnext, List.mem_cons, or_iff_right (Ne.symm hnext)]
      exact ih _

lemma run_eq_exit_iff : d.run xs = d.numbering.exit ↔ exitId ∈ d.visited initId xs := by
  rw [run, Numbering.resolve_eq_exit_iff (of_decide_eq_true (knows_runFrom knows_initId)),
    runFrom_eq_exitId_iff (by decide)]

lemma stamp_of_run_eq_exit (h : d.run xs = d.numbering.exit) : d.stamp xs = -1 := by
  rw [stamp, stampFrom_eq, if_pos (run_eq_exit_iff.mp h)]

lemma stamp_of_run_ne_exit (h : d.run xs ≠ d.numbering.exit) :
    d.stamp xs = rollingHash (d.visited initId xs) := by
  rw [stamp, stampFrom_eq, if_neg (fun hmem => h (run_eq_exit_iff.mpr hmem)), rollingHash]

lemma stamp_eq_neg_one_iff :
    d.stamp xs = -1 ↔
      d.run xs = d.numbering.exit ∨ fullHash (d.visited initId xs) % 2 ^ 64 = 2 ^ 64 - 1 := by
  by_cases h : d.run xs = d.numbering.exit
  · simp [h, stamp_of_run_eq_exit]
  · rw [stamp_of_run_ne_exit h, rollingHash_eq_neg_one_iff, or_iff_right h]

/-- The hash of a way stays below a power of thirty-one times the number of states. -/
lemma fullHash_visited_lt :
    fullHash (d.visited i xs) < 31 ^ xs.length * d.numbering.size := by
  have hids : ∀ j ∈ d.visited i xs, j.toNat < d.numbering.size :=
    fun j hj => of_decide_eq_true (knows_of_mem_visited hj)
  have hlt := fullHash_lt d.numbering.two_le_length hids
  rwa [length_visited] at hlt

end Dispatcher

/-! ### Stamps of machines -/

namespace Machine

variable [DecidableEq σ] [Label σ] {c : Compiler} {m : Model σ k} {n : Numbering σ} {p : Plan k}

/-- The law of stamps. A machine with the numbering of a compiled model stamps minus one exactly on
runs that end at the exit of the model and on ways whose hash is minus one in a word; the latter
need so many symbols that the hash of the way can leave the word. Away from the exit the stamp is
the wrapping hash of the way. -/
theorem stamp_law (hplan : (c.plan m).result = .ok (n, p)) (x : Machine σ k)
    (hx : x.dispatcher.numbering = n) (xs : List (Symbol k)) :
    (x.stamp xs = -1 ↔ x.run xs = m.exit ∨
      fullHash (x.dispatcher.visited initId xs) % 2 ^ 64 = 2 ^ 64 - 1) ∧
    (x.run xs ≠ m.exit → x.stamp xs = rollingHash (x.dispatcher.visited initId xs)) ∧
    (31 ^ xs.length * m.stateCount < 2 ^ 64 → (x.stamp xs = -1 ↔ x.run xs = m.exit)) := by
  have hexit : x.dispatcher.numbering.exit = m.exit := by
    simp only [hx, Numbering.exit, (Compiler.plan_eq_ok hplan).1, Model.labels, List.head_cons]
  have hlaw : x.stamp xs = -1 ↔ x.run xs = x.dispatcher.numbering.exit ∨
      fullHash (x.dispatcher.visited initId xs) % 2 ^ 64 = 2 ^ 64 - 1 :=
    Dispatcher.stamp_eq_neg_one_iff
  rw [hexit] at hlaw
  refine ⟨hlaw, fun hrun => ?_, fun hshort => ?_⟩
  · exact Dispatcher.stamp_of_run_ne_exit (hexit ▸ hrun)
  · -- minus one is the largest word, and the hash of so short a way stays below it
    have hlt : fullHash (x.dispatcher.visited initId xs) < 31 ^ xs.length * m.stateCount := by
      rw [← Compiler.size_of_plan hplan, ← hx]
      exact Dispatcher.fullHash_visited_lt
    refine hlaw.trans (or_iff_left ?_)
    rw [Nat.mod_eq_of_lt (by omega)]
    omega

end Machine

/-- Two states besides the initial one: false leads to the first, and true to the second. -/
def alternative : Model Int32 .bool where
  init := ⟨0, [⟨1, .single false⟩, ⟨2, .single true⟩], none⟩
  exit := 9
  states := [⟨1, [⟨1, .single false⟩, ⟨2, .single true⟩], none⟩,
    ⟨2, [⟨1, .single false⟩, ⟨2, .single true⟩], none⟩]

lemma alternative_built : alternative.Built :=
  ⟨[.edit (.setInit 0), .edit (.setExit 9), .edit (.addState 1), .edit (.addState 2),
    .edit (.addTransition 0 1 (some (.single false))),
    .edit (.addTransition 0 2 (some (.single true))),
    .edit (.addTransition 1 1 (some (.single false))),
    .edit (.addTransition 1 2 (some (.single true))),
    .edit (.addTransition 2 1 (some (.single false))),
    .edit (.addTransition 2 2 (some (.single true)))], rfl⟩

/-- Fifty-eight symbols on which the hash wraps to minus one. -/
def wrappingSymbols : List Bool := (List.range 58).map (Nat.testBit 113781427261984865)

/-- The law at a way that is long enough for its hash to leave the word. -/
theorem stamp_law_alternative :
    ∃ n p, (Compiler.plan ⟨.default, none⟩ alternative).result = .ok (n, p) ∧
      let x : Machine Int32 .bool := ⟨⟨p.transit, n, none⟩, 2⟩
      (x.stamp wrappingSymbols = -1 ↔ x.run wrappingSymbols = 9 ∨
        fullHash (x.dispatcher.visited initId wrappingSymbols) % 2 ^ 64 = 2 ^ 64 - 1) ∧
      (x.run wrappingSymbols ≠ 9 →
        x.stamp wrappingSymbols = rollingHash (x.dispatcher.visited initId wrappingSymbols)) ∧
      ∀ xs : List Bool, xs.length = 12 → (x.stamp xs = -1 ↔ x.run xs = 9) := by
  obtain ⟨⟨n, p⟩, hplan⟩ :
      ∃ r, (Compiler.plan ⟨.default, none⟩ alternative).result = .ok r := ⟨_, rfl⟩
  refine ⟨n, p, hplan, ?_, ?_, ?_⟩
  · exact (Machine.stamp_law hplan _ rfl wrappingSymbols).1
  · exact (Machine.stamp_law hplan _ rfl wrappingSymbols).2.1
  · intro xs hxs
    apply (Machine.stamp_law hplan _ rfl xs).2.2
    rw [hxs]
    decide

/-- A stamp of minus one on a way that never meets the exit. -/
theorem stamp_wraps_to_exit :
    alternative.Built ∧ ∃ n p, (Compiler.plan ⟨.default, none⟩ alternative).result = .ok (n, p) ∧
      let x := (⟨p.transit, n, none⟩ : Dispatcher Int32 .bool).machine
      x.stamp wrappingSymbols = -1 ∧ x.run wrappingSymbols ≠ alternative.exit := by
  refine ⟨alternative_built, _, _, rfl, ?_⟩
  decide +kernel

end StateMachine
