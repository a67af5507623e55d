import StateMachine.Proofs.Fingerprint
import StateMachine.Proofs.Workshop

/-!
# Sharing never misroutes

A dispatcher from a cache may have been compiled from another model, and its routine may have been
loaded for yet another one. What they have in common is a fingerprint, and for routines whose names
are apart also the numbering. So whatever is kept under a key serves every model that can ask for
it, and this stays true whatever a workshop is asked to do.
-/

namespace StateMachine

open LabelTypes (Carrier)

/-! ### What entries serve -/

/-- Models that agree are routed alike. -/
lemma Model.RoutedBy.of_agrees {σ : Type} {k : Kind} [DecidableEq σ] {m m' : Model σ k}
    {n : Numbering σ} {route : StateId → Symbol k → StateId} (h : m.RoutedBy n route)
    (hagree : m.Agrees m') (hm : m.Valid) (hm' : m'.Valid) : m'.RoutedBy n route := by
  intro s hs
  -- the numbering may be that of the other model, which has the same labels in another order
  obtain ⟨i, hi, hroute⟩ := h s (hagree.symm.mem_labels hs)
  exact ⟨i, hi, fun x => (hroute x).trans (hagree.next_eq hm hm' s x)⟩

/-- A dispatcher leads to the same labels as its routine: numbers of no state count as the exit. -/
lemma Dispatcher.resolve_transit {σ : Type} {k : Kind} (d : Dispatcher σ k) (i : StateId)
    (x : Symbol k) : d.numbering.resolve (d.transit i x) = d.numbering.resolve (d.routine i x) := by
  rw [transit]
  split_ifs with hknown
  · rfl
  · have hnone : d.numbering.value? (d.routine i x) = none := by
      rw [Numbering.value?, List.getElem?_eq_none_iff]
      simp only [knows, decide_eq_true_eq, not_lt] at hknown
      exact hknown
    rw [Numbering.resolve_eq (Numbering.value?_exitId _), Numbering.resolve, hnone]
    rfl

section

variable {ι : Type} [LabelTypes ι]

/-- A cached dispatcher routes every built model with the fingerprint of its key. -/
def CacheKey.Serves (key : CacheKey ι) (d : key.Item) : Prop :=
  ∀ m : Model (Carrier key.labels) key.symbols.kind, m.Built → m.fingerprint = key.fingerprint →
    m.RoutedBy d.dispatcher.numbering d.dispatcher.routine

/-- A loaded routine routes every built model with the fingerprint and the numbering that it was
asked for. -/
def LoadedPlan.Serves (s : SymbolType) (o : RoutineOrigin ι) (r : LoadedPlan s.kind) : Prop :=
  ∀ m : Model (Carrier o.labels.type) s.kind, m.Built → m.fingerprint = o.fingerprint →
    ∀ n : Numbering (Carrier o.labels.type), n.values = o.labels.values →
      m.RoutedBy n r.plan.transit

namespace Job

/-- A built model, small enough for its states to be numbered. -/
structure Proper (j : Job ι) : Prop where
  built : j.model.Built
  small : j.model.stateCount < UInt32.size

variable [∀ t : ι, LegibleLabel (Carrier t)] {j : Job ι}

lemma Proper.routedBy_of_fingerprint_eq (hj : j.Proper) {n : Numbering (Carrier j.labels)}
    {route : StateId → Symbol j.symbols.kind → StateId} (h : j.model.RoutedBy n route)
    {m : Model (Carrier j.labels) j.symbols.kind} (hm : m.Built)
    (hfp : m.fingerprint = j.model.fingerprint) : m.RoutedBy n route :=
  h.of_agrees (Model.agrees_of_fingerprint_eq hfp.symm) hj.built.valid hm.valid

/-- Compiling gives a dispatcher that serves its key, also if its routine was loaded before. -/
lemma Proper.upholds_serves (hj : j.Proper) :
    j.Upholds Station.NamesApart CacheKey.Serves (Station.Loaded LoadedPlan.Serves) := by
  refine upholds_of_loaded ?_ ?_
  · intro b n plan hplan serial m hm hfp n' hn'
    have hroute := Compiler.routedBy_of_plan hplan hj.built.valid hj.small.le
    rw [show n' = n from Numbering.ext hn']
    exact hj.routedBy_of_fingerprint_eq hroute hm hfp
  · intro b n r hserves serial m hm hfp
    exact hj.routedBy_of_fingerprint_eq (hserves j.model hj.built rfl n rfl) hm hfp

end Job

end

/-! ### Workshops -/

namespace Workshop

section

variable {ι : Type} [LabelTypes ι] [DecidableEq ι] [∀ t : ι, LegibleLabel (Carrier t)]
  {rs : List (Request ι)} {j : Job ι} {o : Order} {a : Answer ι j.key.Item} {d : j.key.Item}

/-- The routine of a dispatcher that is handed out routes the model. -/
lemma routedBy_of_fulfil (hrs : OnlyOrders Job.Proper rs) (hj : j.Proper)
    (h : (after rs).fulfil j o = some a) (hnames : a.workshop.Meets Station.NamesApart)
    (hd : a.result = .ok d) : j.model.RoutedBy d.dispatcher.numbering d.dispatcher.routine := by
  have hanswers := answers_after hereditary_namesApart (fun _ _ => Store.all_empty)
    (fun o j hmem => (hrs o j hmem).upholds_serves) hj.upholds_serves h hnames
  exact hanswers.property d hd j.model hj.built rfl

/-- Sharing never misroutes. After any requests to compilers that share caches or do not, with
symbols of any kinds and labels of any types whose texts can be read back, a dispatcher handed out
for a model leads from every label of the model to the label that the model leads to, wherever the
dispatcher and its routine come from. Digests are taken to keep the names of routines apart that one
compiler asked for. -/
theorem sharing_never_misroutes (hrs : OnlyOrders Job.Proper rs) (hj : j.Proper)
    (h : (after rs).fulfil j o = some a) (hnames : a.workshop.Meets Station.NamesApart)
    (hd : a.result = .ok d) :
    j.model.RoutedBy d.dispatcher.numbering d.dispatcher.transit := by
  have hroute := routedBy_of_fulfil hrs hj h hnames hd
  intro s hs
  obtain ⟨i, hi, hnext⟩ := hroute s hs
  exact ⟨i, hi, fun x => (d.dispatcher.resolve_transit i x).trans (hnext x)⟩

end

/-- The disguised model. -/
def disguisedJob : Job LabelType := ⟨.str, .plain .str, .disguised Model.disguisedStates⟩

/-- The disguised model with its states in the other order. -/
def reversedJob : Job LabelType := ⟨.str, .plain .str, .disguised Model.disguisedStates.reverse⟩

lemma proper_disguisedJob : disguisedJob.Proper := ⟨Model.disguised_built, by decide⟩

lemma proper_reversedJob : reversedJob.Proper := ⟨Model.disguised_reverse_built, by decide⟩

/-- Two compilers share a cache, and the first one is asked for the disguised model. -/
def sharingRequests : List (Request LabelType) :=
  [.addCompiler ⟨⟨10, .dense, Kind.all⟩, none⟩ none,
    .addCompiler ⟨⟨10, .sparse, Kind.all⟩, none⟩ (some 0), .order (.compile 0) disguisedJob]

lemma onlyOrders_sharing : OnlyOrders Job.Proper sharingRequests := by
  intro o j hmem
  obtain ⟨-, rfl⟩ : o = .compile 0 ∧ j = disguisedJob := by simpa [sharingRequests] using hmem
  exact proper_disguisedJob

/-- The first compiler has asked for one routine, and the second one for none. -/
lemma length_requests_sharing :
    (after sharingRequests).stations.map (fun st => st.requests.length) = [1, 0] := rfl

/-- One more order leaves the second compiler with one request at most. -/
lemma namesApart_of_fulfil_reversedJob {o : Order} (ho : o.station = 1)
    {a : Answer LabelType reversedJob.key.Item}
    (h : (after sharingRequests).fulfil reversedJob o = some a) :
    a.workshop.Meets Station.NamesApart := by
  have hold : ∀ st ∈ (after sharingRequests).stations, st.requests.length ≤ 1 := by
    intro st hst
    have hmem := List.mem_map_of_mem (f := fun st => st.requests.length) hst
    rw [length_requests_sharing] at hmem
    simp only [List.mem_cons, List.not_mem_nil, or_false] at hmem
    omega
  intro st hst
  apply Station.namesApart_of_length_le_one
  rcases stations_of_fulfil h with hsame | ⟨st', hst', hset⟩
  · exact hold st (hsame ▸ hst)
  · rw [hset] at hst
    rcases List.mem_or_eq_of_mem_set hst with hst | rfl
    · exact hold st hst
    · rw [ho] at hst'
      cases hst'
      rcases Bench.requests_compile (bench (after sharingRequests) _) reversedJob
        with heq | ⟨r, heq⟩
      · rw [heq]
        exact Nat.zero_le 1
      · rw [heq]
        exact le_rfl

/-- What the second compiler hands out for the reversed model, which has the fingerprint of the
cached one. -/
theorem sharing_never_misroutes_reversed :
    reversedJob.model.fingerprint = disguisedJob.model.fingerprint ∧
      ∃ (a : Answer LabelType (Issued String .str)) (d : Issued String .str),
        (after sharingRequests).fulfil reversedJob (.compile 1) = some a ∧ a.result = .ok d ∧
          reversedJob.model.RoutedBy d.dispatcher.numbering d.dispatcher.transit := by
  refine ⟨Model.fingerprint_eq_of_perm _ _ (List.reverse_perm _), ?_⟩
  obtain ⟨a, d, ha, hd⟩ :=
    exists_fulfil_compile (w := after sharingRequests) (j := reversedJob) (i := 1) rfl rfl rfl
  exact ⟨a, d, ha, hd, sharing_never_misroutes onlyOrders_sharing proper_reversedJob ha
    (namesApart_of_fulfil_reversedJob rfl ha) hd⟩

end Workshop

end StateMachine
