import StateMachine.Proofs.Acceptance
import StateMachine.Proofs.Strategy
import StateMachine.Proofs.Workshop

/-!
# Why a compilation fails

A built model has numbered targets, distinct labels and guards that name symbols. So there are only
two reasons left for which it cannot be compiled: its kind of symbols is not supported, or a switch
is needed and the largest span of a dense one is set to zero. The routines that come out of it
answer with numbers of states only, wherever they are kept in between, as long as their names can be
told apart. Names are made of digests, and there are models whose names cannot.
-/

namespace StateMachine

variable {σ : Type} {k : Kind}

/-! ### Traversals that fail -/

section

variable {ε ε' α β : Type}

lemma bind_eq_error {x : Except ε α} {f : α → Except ε β} {e : ε} :
    x >>= f = .error e ↔ x = .error e ∨ ∃ a, x = .ok a ∧ f a = .error e := by
  cases x with
  | error e => simp [bind, Except.bind]
  | ok a => simp [bind, Except.bind]

lemma Logged.result_bind_of_ok {x : Logged ε α} {f : α → Logged ε β} {a : α}
    (h : x.result = .ok a) : (x >>= f).result = (f a).result := by
  rw [Logged.result_bind, h]
  rfl

lemma mapError_eq_error {x : Except ε α} {f : ε → ε'} {e : ε'} :
    x.mapError f = .error e ↔ ∃ e', x = .error e' ∧ f e' = e := by
  cases x with
  | error e => simp [Except.mapError]
  | ok a => simp [Except.mapError]

lemma exists_mapM_eq_ok {f : α → Except ε β} {l : List α} (h : ∀ a ∈ l, ∃ b, f a = .ok b) :
    ∃ bs, l.mapM f = .ok bs := by
  induction l with
  | nil => exact ⟨[], rfl⟩
  | cons a l ih =>
    obtain ⟨b, hb⟩ := h a (by simp)
    obtain ⟨bs, hbs⟩ := ih fun a ha => h a (List.mem_cons_of_mem _ ha)
    refine ⟨b :: bs, ?_⟩
    rw [List.mapM_cons]
    exact bind_eq_ok.mpr ⟨b, hb, bind_eq_ok.mpr ⟨bs, hbs, rfl⟩⟩

/-- If elements can fail for one reason only, a traversal fails for this reason, and exactly if an
element does. -/
lemma mapM_eq_error_iff {f : α → Except ε β} {P : α → Prop} {reason : ε} {l : List α}
    (h : ∀ a ∈ l, ∀ e, f a = .error e ↔ P a ∧ e = reason) {e : ε} :
    l.mapM f = .error e ↔ (∃ a ∈ l, P a) ∧ e = reason := by
  induction l with
  | nil => simp [pure, Except.pure]
  | cons a l ih =>
    obtain ⟨ha, hl⟩ := List.forall_mem_cons.mp h
    have hpure : ∀ b bs, (pure (b :: bs) : Except ε (List β)) ≠ .error e := by
      intro b bs hc
      cases hc
    rw [List.mapM_cons, bind_eq_error, ha]
    simp only [bind_eq_error, ih hl, hpure, and_false, exists_false, or_false, List.mem_cons,
      exists_eq_or_imp]
    constructor
    · rintro (⟨hP, he⟩ | ⟨-, -, hex, he⟩)
      · exact ⟨Or.inl hP, he⟩
      · exact ⟨Or.inr hex, he⟩
    · rintro ⟨hP | hex, he⟩
      · exact Or.inl ⟨hP, he⟩
      · -- the first element may fail before the others are reached, but for the same reason
        cases hb : f a with
        | error e' =>
          obtain ⟨hP, rfl⟩ := (ha e').mp hb
          exact Or.inl ⟨hP, he⟩
        | ok b => exact Or.inr ⟨b, rfl, hex, he⟩

end

/-! ### Branches -/

/-- There is more to decide than whether a symbol is a given one. -/
def NeedsSwitch (guards : List (Guard k)) : Prop := guards ≠ [] ∧ ∀ v, guards ≠ [.single v]

lemma Guard.WellFormed.values_ne_nil {g : Guard k} (h : g.WellFormed) : g.values ≠ [] := by
  cases g with
  | single v => simp [values]
  | set vs =>
    obtain ⟨v, hv, -⟩ := h
    exact List.ne_nil_of_mem hv
  | range a b => simp [values]

lemma entries_ne_nil {edges : List (StateId × Guard k)} (hne : edges ≠ [])
    (hedges : ∀ e ∈ edges, e.2.WellFormed) :
    boundaryEntries edges ++ explicitEntries edges ≠ [] := by
  obtain ⟨⟨t, g⟩, hmem⟩ := List.exists_mem_of_ne_nil edges hne
  obtain ⟨v, hv⟩ := List.exists_mem_of_ne_nil g.values (hedges (t, g) hmem).values_ne_nil
  cases hr : g.isRange with
  | true =>
    have hentry := mem_boundaryEntries.mpr ⟨g, hmem, hr, hv⟩
    exact List.ne_nil_of_mem (List.mem_append_left _ hentry)
  | false =>
    have hentry := mem_explicitEntries.mpr ⟨g, hmem, hr, hv⟩
    exact List.ne_nil_of_mem (List.mem_append_right _ hentry)

namespace Branch

lemma ofEdges_eq_error_iff {config : Config} {edges : List (StateId × Guard k)}
    {fallback : StateId} (hedges : ∀ e ∈ edges, e.2.WellFormed) {e : Error} :
    (ofEdges config edges fallback).result = .error e ↔
      (config.maxDelta = 0 ∧ NeedsSwitch (edges.map Prod.snd)) ∧ e = .switch .zeroDelta := by
  rw [ofEdges.eq_def]
  split
  · simp [NeedsSwitch]
  · simp [NeedsSwitch]
  · next hnil hsingle =>
    have hswitch : NeedsSwitch (edges.map Prod.snd) := by
      refine ⟨fun h => hnil (List.map_eq_nil_iff.mp h), fun v h => ?_⟩
      obtain ⟨⟨t, g⟩, hedge, hg⟩ := List.map_eq_singleton_iff.mp h
      obtain rfl : g = .single v := hg
      exact hsingle t v hedge
    have hne := entries_ne_nil hnil hedges
    rw [Logged.result_bind, bind_eq_error, Logged.result_mapError, mapError_eq_error]
    constructor
    · rintro (⟨cause, hcause, rfl⟩ | ⟨map, -, h⟩)
      · rcases SwitchMap.ofEntries_eq_error_iff.mp hcause with ⟨hzero, rfl⟩ | ⟨-, hempty, -⟩
        · exact ⟨⟨hzero, hswitch⟩, rfl⟩
        · exact absurd hempty hne
      · cases h
    · rintro ⟨⟨hzero, -⟩, rfl⟩
      exact Or.inl ⟨_, SwitchMap.ofEntries_eq_error_iff.mpr (Or.inl ⟨hzero, rfl⟩), rfl⟩

variable [DecidableEq σ] [Label σ]

/-- A state whose targets have numbers is arranged like its numbered edges. -/
lemma result_ofState {config : Config} {n : Numbering σ} {s : State σ k}
    (htargets : ∀ e ∈ s.conditional, e.target ∈ n.values)
    (hfallback : ∀ t, s.fallback = some t → t ∈ n.values) :
    (ofState config n s).result
      = (ofEdges config (s.conditional.map fun e => (n.idD e.target, e.guard))
          ((s.fallback.map n.idD).getD exitId)).result := by
  have hrequire : ∀ t ∈ n.values, (n.require t).result = .ok (n.idD t) := by
    intro t ht
    obtain ⟨i, hi⟩ := Numbering.exists_id? ht
    rw [Numbering.require_eq_ok, hi, Numbering.idD_eq hi]
  have hedges : (s.conditional.mapM n.numberEdge).result
      = .ok (s.conditional.map fun e => (n.idD e.target, e.guard)) := by
    obtain ⟨edges, h⟩ : ∃ edges, (s.conditional.mapM n.numberEdge).result = .ok edges := by
      rw [Logged.result_mapM]
      refine exists_mapM_eq_ok fun e he => ⟨(n.idD e.target, e.guard), ?_⟩
      exact Logged.bind_eq_ok.mpr ⟨_, hrequire e.target (htargets e he), rfl⟩
    rw [h, (Numbering.numberEdges_eq_ok h).2]
  rw [ofState]
  cases hf : s.fallback with
  | none => exact (Logged.result_bind_of_ok rfl).trans (Logged.result_bind_of_ok hedges)
  | some t =>
    exact (Logged.result_bind_of_ok (hrequire t (hfallback t hf))).trans
      (Logged.result_bind_of_ok hedges)

lemma ofState_eq_error_iff {config : Config} {n : Numbering σ} {s : State σ k}
    (htargets : ∀ e ∈ s.conditional, e.target ∈ n.values)
    (hfallback : ∀ t, s.fallback = some t → t ∈ n.values)
    (hguards : ∀ e ∈ s.conditional, e.guard.WellFormed) {e : Error} :
    (ofState config n s).result = .error e ↔
      (config.maxDelta = 0 ∧ NeedsSwitch (s.conditional.map Edge.guard)) ∧
        e = .switch .zeroDelta := by
  rw [result_ofState htargets hfallback, ofEdges_eq_error_iff]
  · rw [List.map_map]
    rfl
  · exact List.forall_mem_map.mpr hguards

end Branch

/-! ### Models -/

section

variable [DecidableEq σ] [Label σ]

/-- Everything a compiler needs to know about a built model: its labels can be numbered, the targets
of its edges are among them, and its guards are well formed. -/
structure Model.Compilable (m : Model σ k) : Prop where
  valid : m.Valid
  targets : ∀ s ∈ m.sources, ∀ e ∈ s.conditional, e.target ∈ m.labels
  fallback : ∀ s ∈ m.sources, ∀ t, s.fallback = some t → t ∈ m.labels

omit [Label σ] in
lemma Draft.Yields.mem_labels {d : Draft σ k} {m : Model σ k} (h : d.Yields m) {t : σ}
    (ht : d.IsTarget t) : t ∈ m.labels := by
  rcases ht with hexit | hstate
  · rw [Option.some.inj (hexit.symm.trans h.exit)]
    exact List.mem_cons_self
  · rw [h.states] at hstate
    exact List.mem_cons_of_mem _ (List.mem_cons_of_mem _ hstate)

lemma Model.Built.compilable {m : Model σ k} (hm : m.Built) : m.Compilable := by
  obtain ⟨cs, hbuild⟩ := id hm
  have hd := Draft.consistent_after cs
  have hyields := hd.yields_of_build hbuild
  have htargets : ∀ s ∈ m.sources, ∀ t ∈ s.conditional.map Edge.target ++ s.fallback.toList,
      t ∈ m.labels := by
    intro s hs t ht
    exact hyields.mem_labels ((hd.tidy _ _ (hyields.edges s hs)).targets t ht)
  refine ⟨hm.valid, fun s hs e he => ?_, fun s hs t ht => ?_⟩
  · exact htargets s hs e.target (List.mem_append_left _ (List.mem_map_of_mem he))
  · exact htargets s hs t (List.mem_append_right _ (by simp [ht]))

namespace Compiler

/-- The configuration or the backend does not accept the kind. -/
def Lacks (c : Compiler) (kind : Kind) : Prop :=
  kind ∉ c.config.kinds ∨ ∃ kinds, c.backendKinds = some kinds ∧ kind ∉ kinds

lemma supports_eq_false_iff {c : Compiler} {kind : Kind} :
    c.supports kind = false ↔ c.Lacks kind := by
  rw [supports, Config.supports, Lacks, Bool.and_eq_false_iff]
  cases c.backendKinds <;> simp

lemma checkKind_eq_error_iff {c : Compiler} {kind : Kind} {e : Error} :
    c.checkKind kind = .error e ↔ c.Lacks kind ∧ e = .unsupportedKind kind := by
  rw [checkKind, ← supports_eq_false_iff]
  split_ifs with hkind
  · simp [hkind]
  · simp [hkind, eq_comm]

/-- The reasons for which a compiler fails on a built model. -/
def Rejects (c : Compiler) (m : Model σ k) (e : Error) : Prop :=
  (c.Lacks k ∧ e = .unsupportedKind k) ∨
    (¬ c.Lacks k ∧ c.config.maxDelta = 0 ∧
      (∃ s ∈ m.sources, NeedsSwitch (s.conditional.map Edge.guard)) ∧ e = .switch .zeroDelta)

lemma arrange_eq_error_iff (config : Config) {m : Model σ k} (hm : m.Compilable) {n : Numbering σ}
    (hn : n.values = m.labels) {e : Error} :
    (m.sources.mapM (Branch.ofState config n)).result = .error e ↔
      (∃ s ∈ m.sources, config.maxDelta = 0 ∧ NeedsSwitch (s.conditional.map Edge.guard)) ∧
        e = .switch .zeroDelta := by
  rw [Logged.result_mapM]
  refine mapM_eq_error_iff fun s hs e => Branch.ofState_eq_error_iff ?_ ?_ ?_
  · rw [hn]
    exact hm.targets s hs
  · rw [hn]
    exact hm.fallback s hs
  · intro c hc
    exact Guard.fault?_eq_none_iff_wellFormed.mp ((hm.valid.unambiguous s hs).wellFormed c hc)

/-- Planning a built model fails for an unsupported kind, or for a switch with no span. -/
lemma plan_eq_error_iff {c : Compiler} {m : Model σ k} (hm : m.Built) {e : Error} :
    (c.plan m).result = .error e ↔ c.Rejects m e := by
  have hc := hm.compilable
  obtain ⟨n, hn⟩ : ∃ n, Numbering.ofValues m.labels = .ok n :=
    Numbering.exists_ofValues (by simp [Model.labels, Model.sources]) hc.valid.nodup_labels
  have harrange := arrange_eq_error_iff c.config hc (Numbering.ofValues_eq_ok hn) (e := e)
  rw [plan, Logged.result_bind, bind_eq_error, Logged.result_ofExcept, checkKind_eq_error_iff,
    Rejects]
  refine or_congr_right ?_
  constructor
  · rintro ⟨⟨⟩, hkind, h⟩
    have hlacks : ¬ c.Lacks k := by
      intro hlacks
      rw [checkKind_eq_error_iff.mpr ⟨hlacks, rfl⟩] at hkind
      cases hkind
    rw [Logged.result_bind_of_ok hn, Logged.result_bind, bind_eq_error] at h
    rcases h with h | ⟨branches, -, h⟩
    · obtain ⟨⟨s, hs, hzero, hswitch⟩, rfl⟩ := harrange.mp h
      exact ⟨hlacks, hzero, ⟨s, hs, hswitch⟩, rfl⟩
    · cases h
  · rintro ⟨hlacks, hzero, ⟨s, hs, hswitch⟩, rfl⟩
    refine ⟨(), ?_, ?_⟩
    · rw [checkKind, if_pos]
      rwa [← Bool.not_eq_false, supports_eq_false_iff]
    · rw [Logged.result_bind_of_ok hn, Logged.result_bind, bind_eq_error]
      exact Or.inl (harrange.mpr ⟨⟨s, hs, hzero, hswitch⟩, rfl⟩)

end Compiler

/-! ### Routines -/

omit [Label σ] in
lemma Numbering.toNat_lt_of_id? {n : Numbering σ} {s : σ} {i : StateId} (h : n.id? s = some i) :
    i.toNat < n.size := by
  obtain ⟨j, hj, rfl⟩ := Option.map_eq_some_iff.mp h
  obtain ⟨hlt, -⟩ := List.idxOf?_eq_some_iff.mp hj
  exact (Nat.mod_le j _).trans_lt hlt

/-- A plan leads to numbers of states only. -/
lemma Compiler.toNat_transit_lt {c : Compiler} {m : Model σ k} {n : Numbering σ} {p : Plan k}
    (h : (c.plan m).result = .ok (n, p)) (hm : m.Valid) (i : StateId) (x : Symbol k) :
    (p.transit i x).toNat < n.size := by
  have hexit : exitId.toNat < n.size := Nat.lt_of_lt_of_le Nat.zero_lt_two n.two_le_length
  by_cases hi : i = exitId
  · obtain ⟨-, branches, rfl, -⟩ := plan_eq_ok h
    rw [hi]
    exact hexit
  cases hs : n.value? i with
  | none =>
    -- a number of no state leads to the exit, which has a number
    have hcount : m.stateCount ≤ i.toNat := by
      rw [← size_of_plan h]
      exact List.getElem?_eq_none_iff.mp hs
    rw [transit_of_stateCount_le h hcount]
    exact hexit
  | some s =>
    obtain ⟨t, ht, rfl, b, hb, hstate⟩ := branch?_of_plan h hi hs
    rw [Plan.transit, hb]
    exact Numbering.toNat_lt_of_id? (Branch.id?_next_of_ofState hstate (hm.unambiguous t ht)
      (id?_exit_of_plan h) x)

end

/-! ### Workshops -/

section

variable {ι : Type} [LabelTypes ι]

/-- The routine answers with numbers of states only. -/
def Dispatcher.Closed (d : Dispatcher σ k) : Prop := ∀ i x, d.knows (d.routine i x) = true

/-- A loaded routine answers with numbers of the labels that it was asked for only. -/
def LoadedPlan.Closed (s : SymbolType) (o : RoutineOrigin ι) (r : LoadedPlan s.kind) : Prop :=
  ∀ i x, (r.plan.transit i x).toNat < o.labels.values.length

/-- Compiling gives a closed dispatcher, also if its routine was loaded before. -/
lemma Job.upholds_closed {j : Job ι} (hj : j.model.Built) :
    j.Upholds Station.NamesApart (fun _ d => d.dispatcher.Closed)
      (Station.Loaded LoadedPlan.Closed) := by
  refine upholds_of_loaded ?_ ?_
  · intro b n plan hplan serial
    exact Compiler.toNat_transit_lt hplan hj.valid
  · intro b n r hclosed serial i x
    exact decide_eq_true (hclosed i x)

end

/-- A compilation fails for two reasons only. Planning a built model, or compiling it without a
cache, is refused exactly for a kind that the configuration or the backend does not accept, and
otherwise exactly for a largest span of zero where some state needs a switch; in all other cases it
succeeds. As long as digests keep the names of routines apart that one compiler asked for, the
routine of a dispatcher that is handed out for a model, from a cache or not, never answers with a
number that belongs to no state. All this is true for labels of any types. -/
theorem compilation_fails_exactly [DecidableEq σ] [Label σ] {m : Model σ k} (hm : m.Built)
    (c : Compiler) :
    (∀ e, (c.plan m).result = .error e ↔ c.Rejects m e) ∧
    (∀ n p, (c.plan m).result = .ok (n, p) → ∀ i x, (p.transit i x).toNat < n.size) ∧
    ∀ {ι : Type} [LabelTypes ι] [DecidableEq ι] {j : Job ι}, j.model.Built →
      (∀ (w : Workshop ι) i st, w.stations[i]? = some st →
        ∃ a, w.compileUncached i j = some a ∧
          ∀ e, a.result = .error e ↔ st.compiler.Rejects j.model e) ∧
      ∀ rs, OnlyOrders (fun j => j.model.Built) rs → ∀ o a d,
        (Workshop.after rs).fulfil j o = some a → a.workshop.Meets Station.NamesApart →
          a.result = .ok d → ∀ i x, d.dispatcher.knows (d.dispatcher.routine i x) = true := by
  refine ⟨fun e => Compiler.plan_eq_error_iff hm,
    fun n p h => Compiler.toNat_transit_lt h hm.valid, fun {ι _ _ j} hj => ⟨?_, ?_⟩⟩
  · intro w i st hst
    refine ⟨_, by rw [Workshop.compileUncached, hst]; rfl, fun e => ?_⟩
    exact Bench.compile_eq_error_iff.trans (Compiler.plan_eq_error_iff hj)
  · intro rs hrs o a d h hnames hd
    have hanswers := Workshop.answers_after Workshop.hereditary_namesApart
      (fun _ _ => Store.all_empty) (fun o j hmem => Job.upholds_closed (hrs o j hmem))
      (Job.upholds_closed hj) h hnames
    exact hanswers.property d hd

/-- A workshop is given one compiler. -/
def loneRequests (config : Config) : List (Request LabelType) := [.addCompiler ⟨config, none⟩ none]

/-- The model in which symbols share a hash. -/
def collidingJob : Job LabelType := ⟨.i32, .plain .i64, collidingModel⟩

/-- Different configurations for a model in which symbols share a hash. -/
theorem compilation_fails_exactly_colliding :
    collidingModel.Built ∧
      (Compiler.plan ⟨⟨0, .dense, Kind.all⟩, none⟩ collidingModel).result
        = .error (.switch .zeroDelta) ∧
      (Compiler.plan ⟨⟨0, .dense, Kind.all⟩, some [.i32]⟩ collidingModel).result
        = .error (.unsupportedKind .i64) ∧
      (∃ a, (Workshop.after (loneRequests ⟨0, .sparse, []⟩)).compileUncached 0 collidingJob
          = some a ∧ a.result = .error (.unsupportedKind .i64)) ∧
      ∃ (a : Answer LabelType (Issued Int32 .i64)) (d : Issued Int32 .i64),
        (Workshop.after (loneRequests ⟨1, .auto, [.i64]⟩)).fulfil collidingJob (.compile 0)
            = some a ∧
          a.result = .ok d ∧ ∀ i x, d.dispatcher.knows (d.dispatcher.routine i x) = true := by
  have hbuilt := collidingModel_built
  have hswitch : ∃ s ∈ collidingModel.sources, NeedsSwitch (s.conditional.map Edge.guard) :=
    ⟨collidingModel.init, List.mem_cons_self, by simp [collidingModel, NeedsSwitch]⟩
  obtain ⟨huncached, hclosed⟩ :=
    (compilation_fails_exactly hbuilt ⟨.default, none⟩).2.2 (j := collidingJob) hbuilt
  refine ⟨hbuilt, ?_, ?_, ?_, ?_⟩
  · refine ((compilation_fails_exactly hbuilt _).1 _).mpr (Or.inr ⟨?_, rfl, hswitch, rfl⟩)
    simp [Compiler.Lacks, Kind.all]
  · exact ((compilation_fails_exactly hbuilt _).1 _).mpr
      (Or.inl ⟨Or.inr ⟨_, rfl, by decide⟩, rfl⟩)
  · obtain ⟨a, ha, herror⟩ := huncached (Workshop.after (loneRequests ⟨0, .sparse, []⟩)) 0 _ rfl
    exact ⟨a, ha, (herror _).mpr (Or.inl ⟨Or.inl (by simp), rfl⟩)⟩
  · obtain ⟨a, d, ha, hd⟩ : ∃ (a : Answer LabelType (Issued Int32 .i64)) (d : Issued Int32 .i64),
        (Workshop.after (loneRequests ⟨1, .auto, [.i64]⟩)).fulfil collidingJob (.compile 0)
          = some a ∧ a.result = .ok d := ⟨_, _, rfl, rfl⟩
    refine ⟨a, d, ha, hd, hclosed (loneRequests ⟨1, .auto, [.i64]⟩) ?_ _ a d ha ?_ hd⟩
    · intro o j hmem
      simp [loneRequests] at hmem
    · cases ha
      intro st hst
      apply Station.namesApart_of_length_le_one
      obtain rfl := List.mem_singleton.mp hst
      exact le_rfl

/-! ### Names that are not apart -/

/-- A model of two states, in which every symbol leads to the exit. -/
def plainJob : Job LabelType where
  labels := .i64
  symbols := .plain .str
  model := (⟨⟨0, [], some 2611923443488327891⟩, 2611923443488327891, []⟩ : Model Int64 .str)

/-- A model of three states. Labels and symbol are chosen so that its digest is that of the other
model: they cancel the words which the digest of bytes starts from. -/
def namesakeJob : Job LabelType where
  labels := .i64
  symbols := .plain .str
  model := (⟨⟨1376283091369227077, [], some 7162173139797920719⟩, 0,
    [⟨7162173139797920719, [⟨0, .single "aayocxxxxxrrmioJpgxxxxxx"⟩], none⟩]⟩ : Model Int64 .str)

lemma plainJob_built : plainJob.model.Built :=
  ⟨[.edit (.setInit (0 : Int64)), .edit (.setExit (2611923443488327891 : Int64)),
    .edit (.addTransition (0 : Int64) (2611923443488327891 : Int64) none)], rfl⟩

lemma namesakeJob_built : namesakeJob.model.Built :=
  ⟨[.edit (.setInit (1376283091369227077 : Int64)), .edit (.setExit (0 : Int64)),
    .edit (.addState (7162173139797920719 : Int64)),
    .edit (.addTransition (1376283091369227077 : Int64) (7162173139797920719 : Int64) none),
    .edit (.addTransition (7162173139797920719 : Int64) (0 : Int64)
      (some (.single "aayocxxxxxrrmioJpgxxxxxx")))], rfl⟩

/-- The digest in the name of the routine of a model. -/
def Job.digest (j : Job LabelType) : UInt64 :=
  LabelTypes.digest j.labels j.model.fingerprint j.model.labels

lemma digest_namesakeJob : plainJob.digest = namesakeJob.digest := by
  decide +kernel

/-- The routine of the namesake is loaded. -/
def namesakeRequests : List (Request LabelType) :=
  loneRequests .default ++ [.order (.compileUncached 0) namesakeJob]

/-- Digests do not keep names apart: the plain model gets the routine of its namesake, which answers
with a number that belongs to no state of it. -/
theorem namesake_leaves_states :
    plainJob.model.Built ∧ OnlyOrders (fun j => j.model.Built) namesakeRequests ∧
      ∃ (a : Answer LabelType (Issued Int64 .str)) (d : Issued Int64 .str),
        (Workshop.after namesakeRequests).fulfil plainJob (.compileUncached 0) = some a ∧
          a.result = .ok d ∧ d.dispatcher.numbering.size = 2 ∧
            ∀ x, d.dispatcher.routine initId x = 2 ∧ d.dispatcher.knows 2 = false := by
  refine ⟨plainJob_built, ?_, ?_⟩
  · intro o j hmem
    obtain ⟨-, rfl⟩ : o = .compileUncached 0 ∧ j = namesakeJob := by
      simpa [namesakeRequests, loneRequests] using hmem
    exact namesakeJob_built
  · obtain ⟨st, hst, hcompiler, r, hr, hroute⟩ :
        ∃ st, (Workshop.after namesakeRequests).stations[0]? = some st ∧
          st.compiler = ⟨.default, none⟩ ∧ ∃ r : LoadedPlan .str,
            st.loader.find? ⟨.plain .str, ⟨namesakeJob.digest, .auto, 10⟩⟩ = some r ∧
              ∀ x, r.plan.transit initId x = 2 :=
      ⟨_, rfl, rfl, _, Store.find?_insertNew rfl, fun x => rfl⟩
    obtain ⟨⟨n, plan⟩, hplan⟩ :
        ∃ p, (Compiler.plan ⟨.default, none⟩ plainJob.model).result = .ok p := ⟨_, rfl⟩
    have hn := (Compiler.plan_eq_ok hplan).1
    rw [← hcompiler] at hplan
    have hname : (((Workshop.after namesakeRequests).bench st).origin plainJob n).name
        = ⟨namesakeJob.digest, .auto, 10⟩ := by
      rw [← digest_namesakeJob, Job.digest, ← hn, RoutineOrigin.name, Bench.origin, Workshop.bench,
        hcompiler]
      rfl
    obtain ⟨d, hd, hnumbering, hroutine⟩ := Bench.exists_compile_of_find?
      (b := (Workshop.after namesakeRequests).bench st) hplan (hname ▸ hr)
    have hsize : d.dispatcher.numbering.size = 2 := by
      rw [hnumbering, Numbering.size, hn]
      rfl
    have hunknown : d.dispatcher.knows 2 = false := by
      rw [Dispatcher.knows, hsize]
      rfl
    refine ⟨_, d, by rw [Workshop.fulfil, Workshop.compileUncached, hst]; rfl, hd, hsize, ?_⟩
    exact fun x => ⟨(congrFun₂ hroutine initId x).trans (hroute x), hunknown⟩

end StateMachine
