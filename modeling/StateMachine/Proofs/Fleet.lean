import StateMachine.Proofs.Absorption

/-!
# Machines of one dispatcher

A routine may lead to any number at all, but machines stay where the numbering has labels, so that a
machine has terminated exactly if it shows the label of the exit. Machines of one dispatcher share
nothing that changes: each is where its own calls have led it since it was made, and a clone begins
where the original stands.
-/

namespace StateMachine

variable {σ : Type} {k : Kind}

/-! ### Machines -/

namespace Machine

variable {m : Machine σ k}

lemma after_append (calls calls' : List (Call k)) :
    m.after (calls ++ calls') = (m.after calls).after calls' := List.foldl_append

/-- The current number has a label. -/
def Placed (m : Machine σ k) : Prop := m.dispatcher.knows m.current = true

lemma placed_machine (d : Dispatcher σ k) : d.machine.Placed := Dispatcher.knows_initId

/-- Whatever the routine says, a call leads to a number with a label. -/
lemma Placed.respond (h : m.Placed) (c : Call k) : (m.respond c).2.Placed := by
  cases c with
  | step x => exact Dispatcher.knows_transit m.current x
  | reset => exact Dispatcher.knows_initId
  | run xs => exact h
  | stamp xs => exact h

lemma Placed.isTerminated_iff (h : m.Placed) :
    m.isTerminated = true ↔ m.state = m.dispatcher.numbering.exit := by
  rw [isTerminated, decide_eq_true_eq, state]
  exact (Numbering.resolve_eq_exit_iff (of_decide_eq_true h)).symm

end Machine

/-! ### Fleets -/

/-- What can be done with the machines of a dispatcher, which are known by their places. -/
inductive Operation (k : Kind)
  /-- Adds a fresh machine. -/
  | make
  /-- Adds a clone of the machine at a place. -/
  | clone (i : Nat)
  /-- Calls the machine at a place. -/
  | call (i : Nat) (c : Call k)

/-- The call of the machine at a place, if the operation is one. -/
def Operation.callTo? (i : Nat) : Operation k → Option (Call k)
  | .call j c => if j = i then some c else none
  | _ => none

/-- The calls of the machine at a place. -/
def callsTo (i : Nat) (ops : List (Operation k)) : List (Call k) :=
  ops.filterMap (Operation.callTo? i)

lemma callsTo_cons (i : Nat) (o : Operation k) (ops : List (Operation k)) :
    callsTo i (o :: ops) = (o.callTo? i).toList ++ callsTo i ops := by
  rw [callsTo, List.filterMap_cons]
  cases o.callTo? i <;> rfl

namespace Dispatcher

variable (d : Dispatcher σ k)

/-- The machines after an operation. Places without a machine are passed over. -/
def perform (ms : List (Machine σ k)) : Operation k → List (Machine σ k)
  | .make => ms ++ [d.machine]
  | .clone i => ms ++ ms[i]?.toList
  | .call i c => ms.modify i fun m => (m.respond c).2

/-- The machines after operations, of which there are none at first. -/
def fleet (ops : List (Operation k)) : List (Machine σ k) := ops.foldl d.perform []

variable {d} {ms : List (Machine σ k)} {m : Machine σ k}

/-- A machine changes by its own calls only. -/
lemma getElem?_perform {i : Nat} (hm : ms[i]? = some m) (o : Operation k) :
    (d.perform ms o)[i]? = some (m.after (o.callTo? i).toList) := by
  have hi : i < ms.length := (List.getElem?_eq_some_iff.mp hm).1
  cases o with
  | make => rw [perform, List.getElem?_append_left hi, hm]; rfl
  | clone j => rw [perform, List.getElem?_append_left hi, hm]; rfl
  | call j c =>
    rw [perform, List.getElem?_modify, hm, Operation.callTo?]
    split_ifs with hj
    · rfl
    · rfl

lemma getElem?_foldl_perform {i : Nat} (hm : ms[i]? = some m) (ops : List (Operation k)) :
    (ops.foldl d.perform ms)[i]? = some (m.after (callsTo i ops)) := by
  induction ops generalizing ms m with
  | nil => exact hm
  | cons o ops ih =>
    rw [List.foldl_cons, ih (getElem?_perform hm o), callsTo_cons, Machine.after_append]

lemma fleet_append (ops ops' : List (Operation k)) :
    d.fleet (ops ++ ops') = ops'.foldl d.perform (d.fleet ops) := List.foldl_append

lemma mem_perform {o : Operation k} (h : m ∈ d.perform ms o) :
    m = d.machine ∨ m ∈ ms ∨ ∃ m' ∈ ms, ∃ c, m = (m'.respond c).2 := by
  cases o with
  | make =>
    rcases List.mem_append.mp h with h | h
    · exact Or.inr (Or.inl h)
    · exact Or.inl (List.mem_singleton.mp h)
  | clone i =>
    rcases List.mem_append.mp h with h | h
    · exact Or.inr (Or.inl h)
    · exact Or.inr (Or.inl (List.mem_of_getElem? (Option.mem_toList.mp h)))
  | call i c =>
    obtain ⟨j, hj⟩ := List.mem_iff_getElem?.mp h
    rw [perform, List.getElem?_modify] at hj
    obtain ⟨m', hm', rfl⟩ := Option.map_eq_some_iff.mp hj
    have hmem := List.mem_of_getElem? hm'
    split_ifs
    · exact Or.inr (Or.inr ⟨m', hmem, c, rfl⟩)
    · exact Or.inr (Or.inl hmem)

/-- All machines are on the dispatcher and have a label. -/
lemma placed_of_mem_fleet {ops : List (Operation k)} (h : m ∈ d.fleet ops) :
    m.dispatcher = d ∧ m.Placed := by
  induction ops using List.reverseRecOn generalizing m with
  | nil => simp [fleet] at h
  | append_singleton ops o ih =>
    rw [fleet_append] at h
    rcases mem_perform h with rfl | h | ⟨m', hm', c, rfl⟩
    · exact ⟨rfl, Machine.placed_machine d⟩
    · exact ih h
    · obtain ⟨hdispatcher, hplaced⟩ := ih hm'
      exact ⟨(Machine.dispatcher_after [c]).trans hdispatcher, hplaced.respond c⟩

lemma getElem?_fleet_clone {ops : List (Operation k)} {i : Nat} (hm : (d.fleet ops)[i]? = some m) :
    (d.fleet (ops ++ [.clone i]))[(d.fleet ops).length]? = some m := by
  rw [fleet_append]
  change (d.fleet ops ++ (d.fleet ops)[i]?.toList)[_]? = _
  rw [hm, List.getElem?_append_right le_rfl]
  simp

variable [DecidableEq σ] [Label σ]

lemma numbering_of_ofRoutine {routine : Routine k} {values : List σ}
    (h : ofRoutine routine values = .ok d) : d.numbering.values = values := by
  obtain ⟨n, hn, h⟩ := bind_eq_ok.mp h
  cases h
  exact Numbering.ofValues_eq_ok hn

end Dispatcher

/-- Numbers and labels determine each other, and machines never leave them. Labels can be numbered
exactly if there are at least two and none is repeated; with fewer of them than there are numbers,
the numbering is a bijection. Over any routine, each machine that comes out of fresh machines,
clones and calls is at a number with a label, and has terminated exactly if it shows the first
label. A clone stands where the original does, and a machine is moved by calls of its own only. -/
theorem machines_keep_to_labels [DecidableEq σ] [Label σ] (values : List σ) (routine : Routine k) :
    ((∃ n, Numbering.ofValues values = .ok n) ↔ 2 ≤ values.length ∧ values.Nodup) ∧
    (∀ n, Numbering.ofValues values = .ok n → values.length < UInt32.size → n.Bijective values) ∧
    ∀ d, Dispatcher.ofRoutine routine values = .ok d → ∀ ops,
      (∀ m ∈ d.fleet ops, m.current.toNat < values.length ∧
        (m.isTerminated = true ↔ some m.state = values.head?)) ∧
      ∀ i m, (d.fleet ops)[i]? = some m →
        (d.fleet (ops ++ [.clone i]))[(d.fleet ops).length]? = some m ∧
        ∀ later, (d.fleet (ops ++ later))[i]? = some (m.after (callsTo i later)) := by
  refine ⟨Numbering.exists_ofValues_iff, fun n hn hsize => ?_, fun d hd ops => ⟨?_, ?_⟩⟩
  · obtain rfl := Numbering.ofValues_eq_ok hn
    exact Numbering.bijective_values hsize.le
  · obtain rfl := Dispatcher.numbering_of_ofRoutine hd
    intro m hm
    obtain ⟨rfl, hplaced⟩ := Dispatcher.placed_of_mem_fleet hm
    refine ⟨of_decide_eq_true hplaced, ?_⟩
    rw [hplaced.isTerminated_iff, Numbering.head?_values, Option.some.injEq]
  · intro i m hm
    refine ⟨Dispatcher.getElem?_fleet_clone hm, fun later => ?_⟩
    rw [Dispatcher.fleet_append]
    exact Dispatcher.getElem?_foldl_perform hm later

-- the clone leaves the labels and ends at the exit, while the original goes on from where it was
example : (Dispatcher.ofRoutine (k := .bool) (fun i x => if x then i + 1 else i - 3)
    [(9 : Int32), 0, 5, 7]).map (fun d => (d.fleet [.make, .call 0 (.step true), .clone 0,
      .call 1 (.step false), .call 0 (.step true)]).map fun m => (m.current, m.state))
    = .ok [(3, 7), (0, 9)] := by
  rfl

end StateMachine
