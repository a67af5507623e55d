import StateMachine.Proofs.Compilation
import StateMachine.Proofs.Declaration
import StateMachine.Proofs.Stamp

/-!
# Runs and steps

A run follows the steps of a fresh machine until it meets the exit. What comes behind the exit is up
to the routine, which may be any function, so a machine that is stepped on need not stay there. The
routines of plans and of code never leave the exit, and then a run ends where the steps end.
-/

namespace StateMachine

variable {σ : Type} {k : Kind}

/-! ### Runs of a dispatcher -/

namespace Dispatcher

variable {d : Dispatcher σ k} {i : StateId} {xs : List (Symbol k)}

/-- The exit is never left. -/
def Absorbing (d : Dispatcher σ k) : Prop := ∀ x, d.transit exitId x = exitId

lemma absorbing_of_routine (h : ∀ x, d.routine exitId x = exitId) : d.Absorbing := by
  intro x
  rw [transit, h x]
  simp

@[simp] lemma stepAll_nil : d.stepAll i [] = i := rfl

@[simp] lemma stepAll_cons (x : Symbol k) : d.stepAll i (x :: xs) = d.stepAll (d.transit i x) xs :=
  rfl

lemma Absorbing.stepAll_exitId (h : d.Absorbing) : d.stepAll exitId xs = exitId := by
  induction xs with
  | nil => rfl
  | cons x xs ih => rw [stepAll_cons, h x, ih]

/-- The rest of the symbols, which a run passes over, leaves the exit where it is. -/
lemma Absorbing.runFrom_eq_stepAll (h : d.Absorbing) : d.runFrom i xs = d.stepAll i xs := by
  induction xs generalizing i with
  | nil => rfl
  | cons x xs ih =>
    rw [runFrom, stepAll_cons]
    split_ifs with hexit
    · rw [hexit, h.stepAll_exitId]
    · exact ih

/-- A run takes the steps of the shortest prefix that ends at the exit, or all steps. -/
lemma exists_prefix_of_run (hi : i ≠ exitId) (xs : List (Symbol k)) :
    ∃ ys, ys <+: xs ∧ d.runFrom i xs = d.stepAll i ys ∧ (d.stepAll i ys = exitId ∨ ys = xs) ∧
      ∀ zs, zs <+: xs → d.stepAll i zs = exitId → ys <+: zs := by
  induction xs generalizing i with
  | nil => exact ⟨[], List.prefix_rfl, rfl, Or.inr rfl, fun zs _ _ => List.nil_prefix⟩
  | cons x xs ih =>
    -- no steps at all do not lead to the exit
    have hcons : ∀ zs, zs <+: x :: xs → d.stepAll i zs = exitId →
        ∃ zs', zs = x :: zs' ∧ zs' <+: xs ∧ d.stepAll (d.transit i x) zs' = exitId := by
      intro zs hzs hend
      cases zs with
      | nil => exact absurd hend hi
      | cons z zs' =>
        obtain ⟨rfl, hzs'⟩ := List.cons_prefix_cons.mp hzs
        exact ⟨zs', rfl, hzs', hend⟩
    rw [runFrom]
    by_cases hexit : d.transit i x = exitId
    · refine ⟨[x], by simp, ?_, Or.inl hexit, ?_⟩
      · simp [hexit]
      · intro zs hzs hend
        obtain ⟨zs', rfl, -, -⟩ := hcons zs hzs hend
        simp
    · obtain ⟨ys, hys, hrun, hend, hleast⟩ := ih hexit
      refine ⟨x :: ys, by simpa using hys, ?_, by simpa using hend, ?_⟩
      · simpa [hexit] using hrun
      · intro zs hzs hend
        obtain ⟨zs', rfl, hzs', hend'⟩ := hcons zs hzs hend
        simpa using hleast zs' hzs' hend'

end Dispatcher

/-! ### Calls of a machine -/

/-- What can be asked of a machine. -/
inductive Call (k : Kind)
  | step (x : Symbol k)
  | reset
  | run (xs : List (Symbol k))
  | stamp (xs : List (Symbol k))

/-- Whether a call is there to move the machine. -/
def Call.moves : Call k → Bool
  | .step _ | .reset => true
  | .run _ | .stamp _ => false

/-- What a call is answered with. -/
inductive Reply (σ : Type)
  | label (s : σ)
  | number (n : Int64)
  | done

namespace Machine

/-- The reply to a call, with the machine that it leaves behind. -/
def respond (m : Machine σ k) : Call k → Reply σ × Machine σ k
  | .step x => (.label (m.step x).state, m.step x)
  | .reset => (.done, m.reset)
  | .run xs => (.label (m.run xs), m)
  | .stamp xs => (.number (m.stamp xs), m)

/-- The machine after calls. -/
def after (m : Machine σ k) (calls : List (Call k)) : Machine σ k :=
  calls.foldl (fun m c => (m.respond c).2) m

/-- The machine after a step for each symbol. -/
def stepAll (m : Machine σ k) (xs : List (Symbol k)) : Machine σ k := xs.foldl step m

variable {m : Machine σ k}

lemma stepAll_eq (xs : List (Symbol k)) :
    m.stepAll xs = ⟨m.dispatcher, m.dispatcher.stepAll m.current xs⟩ := by
  induction xs generalizing m with
  | nil => rfl
  | cons x xs ih => exact ih

lemma dispatcher_after (calls : List (Call k)) : (m.after calls).dispatcher = m.dispatcher := by
  induction calls generalizing m with
  | nil => rfl
  | cons c calls ih =>
    rw [after, List.foldl_cons, ← after, ih]
    cases c <;> rfl

/-- Runs and stamps in between change nothing. -/
lemma after_filter_moves (calls : List (Call k)) :
    m.after (calls.filter Call.moves) = m.after calls := by
  induction calls generalizing m with
  | nil => rfl
  | cons c calls ih =>
    cases c with
    | step x => exact ih
    | reset => exact ih
    | run xs => exact ih
    | stamp xs => exact ih

end Machine

/-! ### Compiled dispatchers -/

namespace Compiler

variable [DecidableEq σ] [Label σ] {c : Compiler} {m : Model σ k} {n : Numbering σ} {p : Plan k}

lemma transit_exitId (h : (c.plan m).result = .ok (n, p)) (x : Symbol k) :
    p.transit exitId x = exitId := by
  obtain ⟨-, branches, rfl, -⟩ := plan_eq_ok h
  rfl

end Compiler

/-- The exit has no block, and no block of another state has come round to its number. -/
lemma Code.eval_exitId {p : Plan k} (hsize : p.branches.length ≤ UInt32.size) (x : Symbol k) :
    (ofPlan p).eval exitId x = exitId := by
  have hlength : 1 + (p.branches.drop 1).length ≤ UInt32.size := by
    rw [List.length_drop]
    have : 1 ≤ UInt32.size := by decide
    omega
  rw [eval, blocks_ofPlan, lookup_numberedArms_of_lt Nat.zero_lt_one hlength]

section

variable {ι : Type} [LabelTypes ι]

/-- Every loaded routine stays at the exit. -/
def Station.Absorbing (st : Station ι) : Prop :=
  st.loader.All fun _ r => ∀ x, r.plan.transit exitId x = exitId

/-- Compiling gives an absorbing dispatcher, also if its routine was loaded before, under whatever
name. -/
lemma Job.upholds_absorbing (j : Job ι) :
    j.Upholds (fun _ => True) (fun _ d => d.dispatcher.Absorbing) Station.Absorbing := by
  intro b hb _
  cases hplan : (b.station.compiler.plan j.model).result with
  | error e =>
    obtain ⟨hresult, hstation⟩ := Bench.compile_of_error hplan
    rw [hresult, hstation]
    exact ⟨hb, by rintro d ⟨⟩⟩
  | ok r =>
    obtain ⟨b', hb', hstation, serial, hresult⟩ := Bench.compile_of_ok hplan
    rw [← hb'] at hb
    obtain ⟨habsorbing, hloaded⟩ := Bench.load_all hb (Compiler.transit_exitId hplan)
    rw [hresult, hstation]
    refine ⟨habsorbing, ?_⟩
    rintro d ⟨⟩
    exact Dispatcher.absorbing_of_routine hloaded

/-- Whatever a workshop hands out is absorbing. -/
lemma Workshop.absorbing_of_fulfil [DecidableEq ι] {rs : List (Request ι)} {j : Job ι} {o : Order}
    {a : Answer ι j.key.Item} {d : j.key.Item} (h : (after rs).fulfil j o = some a)
    (hd : a.result = .ok d) : d.dispatcher.Absorbing := by
  have hanswers := answers_after (fun _ _ _ h => h) (fun _ _ => Store.all_empty)
    (fun _ j _ => j.upholds_absorbing) j.upholds_absorbing h fun _ _ => trivial
  exact hanswers.property d hd

end

/-- The dispatchers that are not made over a routine of one's own: the one of a plan, whatever a
workshop hands out, and the one over the code of a declaration, for any labels. The states of a
declaration need numbers of their own. -/
inductive Dispatcher.Compiled : {σ : Type} → {k : Kind} → Dispatcher σ k → Prop
  | planned {σ : Type} {k : Kind} [DecidableEq σ] [Label σ] {c : Compiler} {m : Model σ k}
    {n : Numbering σ} {p : Plan k} (hm : m.Built) (hplan : (c.plan m).result = .ok (n, p))
    (fingerprint : Option String) : Compiled ⟨p.transit, n, fingerprint⟩
  | delivered {ι : Type} [LabelTypes ι] [DecidableEq ι] {rs : List (Request ι)} {j : Job ι}
    {o : Order} {a : Answer ι j.key.Item} {d : j.key.Item}
    (ha : (Workshop.after rs).fulfil j o = some a) (hd : a.result = .ok d) : Compiled d.dispatcher
  | declared {σ : Type} [DecidableEq σ] [Label σ] {c : Declaration} {b : Blueprint c.kind}
    {labels : List σ} {d : Dispatcher σ c.kind} (hb : c.blueprint = .ok b)
    (hsize : b.numbering.size ≤ UInt32.size)
    (hd : ofRoutine (Code.ofPlan b.plan).eval labels = .ok d) : Compiled d

namespace Dispatcher

lemma routine_of_ofRoutine [DecidableEq σ] [Label σ] {routine : Routine k} {labels : List σ}
    {d : Dispatcher σ k} (h : ofRoutine routine labels = .ok d) : d.routine = routine := by
  obtain ⟨n, -, h⟩ := bind_eq_ok.mp h
  cases h
  rfl

lemma Compiled.absorbing {d : Dispatcher σ k} (h : d.Compiled) : d.Absorbing := by
  cases h with
  | planned _ hplan _ => exact absorbing_of_routine (Compiler.transit_exitId hplan)
  | delivered ha hd => exact Workshop.absorbing_of_fulfil ha hd
  | declared hb hsize hd =>
    obtain ⟨m, -, hplan⟩ := Declaration.blueprint_eq_ok hb
    rw [Compiler.size_of_plan hplan, ← Compiler.length_branches_of_plan hplan] at hsize
    apply absorbing_of_routine
    rw [routine_of_ofRoutine hd]
    exact Code.eval_exitId hsize

end Dispatcher

namespace Machine

variable {m : Machine σ k}

lemma state_stepAll_of_absorbing (h : m.dispatcher.Absorbing) (hm : m.current = initId)
    (xs : List (Symbol k)) : (m.stepAll xs).state = m.run xs := by
  rw [stepAll_eq, hm, ← h.runFrom_eq_stepAll]
  rfl

/-- A run is a fold of steps that stops at the exit. For any routine, it ends in the state that a
fresh machine has after the steps of the shortest prefix of the symbols that leads to the exit, or
after all of them if none does; runs and stamps depend on no call before them and change nothing.
Machines of compiled and of declared dispatchers never leave the exit, so that all steps of a fresh
machine, or of one that was reset, end where the run ends, however they are split. -/
theorem run_folds_steps (m : Machine σ k) (xs : List (Symbol k)) :
    (∃ ys, ys <+: xs ∧ m.run xs = (m.dispatcher.machine.stepAll ys).state ∧
      ((m.dispatcher.machine.stepAll ys).isTerminated = true ∨ ys = xs) ∧
      ∀ zs, zs <+: xs → (m.dispatcher.machine.stepAll zs).isTerminated = true → ys <+: zs) ∧
    (∀ calls, m.after (calls.filter Call.moves) = m.after calls ∧
      (m.after calls).respond (.run xs) = (.label (m.run xs), m.after calls) ∧
      (m.after calls).respond (.stamp xs) = (.number (m.stamp xs), m.after calls)) ∧
    (m.dispatcher.Compiled →
      (∀ x, m.isTerminated = true → (m.step x).isTerminated = true) ∧
      ∀ fresh ∈ [m.dispatcher.machine, m.reset], (fresh.stepAll xs).state = m.run xs ∧
        ∀ ys zs, xs = ys ++ zs → ((fresh.stepAll ys).stepAll zs).state = m.run xs) := by
  refine ⟨?_, fun calls => ?_, fun h => ⟨fun x hexit => ?_, fun fresh hfresh => ?_⟩⟩
  · obtain ⟨ys, hys, hrun, hend, hleast⟩ :=
      m.dispatcher.exists_prefix_of_run (i := initId) (by decide) xs
    simp only [stepAll_eq, isTerminated, decide_eq_true_eq]
    exact ⟨ys, hys, congrArg m.dispatcher.numbering.resolve hrun, hend, hleast⟩
  · rw [after_filter_moves, respond, respond, run, stamp, dispatcher_after]
    exact ⟨rfl, rfl, rfl⟩
  · rw [isTerminated, decide_eq_true_eq] at hexit ⊢
    rw [step, hexit]
    exact h.absorbing x
  · obtain ⟨hdispatcher, hcurrent⟩ :
        fresh.dispatcher = m.dispatcher ∧ fresh.current = initId := by
      rcases List.mem_pair.mp hfresh with rfl | rfl <;> exact ⟨rfl, rfl⟩
    have hsteps : (fresh.stepAll xs).state = m.run xs := by
      rw [run, ← hdispatcher]
      exact state_stepAll_of_absorbing (hdispatcher ▸ h.absorbing) hcurrent xs
    refine ⟨hsteps, ?_⟩
    rintro ys zs rfl
    rwa [stepAll, stepAll, ← List.foldl_append]

end Machine

/-- Arguments of a machine over truth values. -/
def leavingArguments : String := "state = i32, token = bool, init = 0, exit = 9"

/-- One transition, to the exit. -/
def leavingItem : String := "#[transition(from = 0, to = 9)] struct M;"

lemma leaving_spec : ∃ c ∈ (Declaration.ofSource leavingArguments leavingItem).toOption,
    ∃ b ∈ c.blueprint.toOption, b.numbering.size ≤ UInt32.size := by
  decide +kernel

/-- Machines of the three origins, one of which was moved before. -/
theorem run_folds_steps_origins :
    (∃ n p, (Compiler.plan ⟨.default, none⟩ collidingModel).result = .ok (n, p) ∧
      let m : Machine Int32 .i64 := ⟨⟨p.transit, n, none⟩, 2⟩
      m.run [1, 3, 1] = 1 ∧
        ∀ ys zs, ((m.reset.stepAll ys).stepAll zs).state = m.run (ys ++ zs)) ∧
    (∃ (a : Answer LabelType (Issued Int32 .i64)) (d : Issued Int32 .i64),
      (Workshop.after (loneRequests .default)).fulfil collidingJob (.compile 0) = some a ∧
        a.result = .ok d ∧
          ∀ xs, (d.dispatcher.machine.stepAll xs).state = d.dispatcher.machine.run xs) ∧
    ∃ (c : Declaration) (b : Blueprint c.kind) (d : Dispatcher Int32 c.kind),
      Declaration.ofSource leavingArguments leavingItem = .ok c ∧ c.blueprint = .ok b ∧
        Dispatcher.ofRoutine (Code.ofPlan b.plan).eval [9, 0] = .ok d ∧
          ∀ xs, (d.machine.stepAll xs).state = d.machine.run xs := by
  refine ⟨?_, ?_, ?_⟩
  · obtain ⟨⟨n, p⟩, hplan⟩ :
        ∃ r, (Compiler.plan ⟨.default, none⟩ collidingModel).result = .ok r := ⟨_, rfl⟩
    refine ⟨n, p, hplan, ?_, ?_⟩
    · cases hplan
      rfl
    · intro ys zs
      exact (((Machine.run_folds_steps _ (ys ++ zs)).2.2
        (.planned collidingModel_built hplan none)).2 _ (by simp)).2 ys zs rfl
  · obtain ⟨a, d, ha, hd⟩ : ∃ (a : Answer LabelType (Issued Int32 .i64)) (d : Issued Int32 .i64),
        (Workshop.after (loneRequests .default)).fulfil collidingJob (.compile 0) = some a ∧
          a.result = .ok d := ⟨_, _, rfl, rfl⟩
    refine ⟨a, d, ha, hd, fun xs => ?_⟩
    exact (((Machine.run_folds_steps d.dispatcher.machine xs).2.2
      (.delivered (j := collidingJob) ha hd)).2 _ List.mem_cons_self).1
  · obtain ⟨c, hc, b, hb, hsize⟩ := leaving_spec
    obtain ⟨d, hd⟩ : ∃ d : Dispatcher Int32 c.kind,
        Dispatcher.ofRoutine (Code.ofPlan b.plan).eval [9, 0] = .ok d := ⟨_, rfl⟩
    refine ⟨c, b, d, toOption_eq_some.mp hc, toOption_eq_some.mp hb, hd, fun xs => ?_⟩
    exact (((Machine.run_folds_steps d.machine xs).2.2
      (.declared (toOption_eq_some.mp hb) hsize hd)).2 _ List.mem_cons_self).1

end StateMachine
