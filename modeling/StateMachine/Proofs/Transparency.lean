import Mathlib.Data.List.Perm.Basic
import StateMachine.Proofs.Sharing
import StateMachine.Proofs.Stamp

/-!
# What a cache lets through

A dispatcher is cached under a fingerprint, and a fingerprint says nothing about the order in which
states were declared. So a cached dispatcher runs like a new one, but it may number the states in
the order of another model, and then its stamps differ from those of a new one.
-/

namespace StateMachine

open LabelTypes (Carrier)

/-! ### Runs of a model -/

section Runs

variable {σ : Type} {k : Kind} [DecidableEq σ]

namespace Model

/-- The label at which a run from a label ends: the exit, as soon as it is met. -/
def runFrom (m : Model σ k) (s : σ) : List (Symbol k) → σ
  | [] => s
  | x :: xs => if m.next s x = m.exit then m.exit else runFrom m (m.next s x) xs

/-- The label at which a run of a model ends. -/
def run (m : Model σ k) (xs : List (Symbol k)) : σ := m.runFrom m.init.value xs

variable {m m' : Model σ k}

omit [DecidableEq σ] in
/-- Models that agree have the same labels, in whatever order. -/
lemma Agrees.perm_labels (h : m.Agrees m') (hm : m.Valid) (hm' : m'.Valid) :
    m.labels.Perm m'.labels :=
  (List.perm_ext_iff_of_nodup hm.nodup_labels hm'.nodup_labels).mpr
    fun _ => ⟨h.mem_labels, h.symm.mem_labels⟩

end Model

namespace Dispatcher

variable {d d' : Dispatcher σ k} {m : Model σ k} {i : StateId} {s : σ}

/-- A dispatcher for a model: it numbers the labels of the model, with the exit and the initial
state in their places, and routes them as the model does. -/
structure Realizes (d : Dispatcher σ k) (m : Model σ k) : Prop where
  perm : d.numbering.values.Perm m.labels
  size_le : d.numbering.size ≤ UInt32.size
  value?_exit : d.numbering.value? exitId = some m.exit
  value?_init : d.numbering.value? initId = some m.init.value
  routedBy : m.RoutedBy d.numbering d.routine

namespace Realizes

lemma value?_inj (h : d.Realizes m) {i' : StateId} (hi : d.numbering.value? i = some s)
    (hi' : d.numbering.value? i' = some s) : i = i' := by
  rw [← Numbering.id?_eq_some_iff h.size_le] at hi hi'
  exact Option.some_inj.mp (hi.symm.trans hi')

/-- A step leads to the number of the next label. -/
lemma value?_transit (h : d.Realizes m) (hi : d.numbering.value? i = some s) (x : Symbol k) :
    d.numbering.value? (d.transit i x) = some (m.next s x) := by
  have hs : s ∈ m.labels := h.perm.mem_iff.mp (List.mem_of_getElem? hi)
  obtain ⟨i', hi', hnext⟩ := h.routedBy s hs
  obtain rfl := h.value?_inj hi ((Numbering.id?_eq_some_iff h.size_le).mp hi')
  have hknown : (d.transit i x).toNat < d.numbering.values.length :=
    of_decide_eq_true (knows_transit i x)
  obtain ⟨t, ht⟩ : ∃ t, d.numbering.value? (d.transit i x) = some t :=
    ⟨_, List.getElem?_eq_getElem hknown⟩
  rw [ht, ← Numbering.resolve_eq ht, d.resolve_transit, hnext]

lemma transit_eq_exitId_iff (h : d.Realizes m) (hi : d.numbering.value? i = some s)
    (x : Symbol k) : d.transit i x = exitId ↔ m.next s x = m.exit := by
  have hnext := h.value?_transit hi x
  constructor
  · intro hexit
    rw [hexit, h.value?_exit] at hnext
    exact (Option.some_inj.mp hnext).symm
  · intro hexit
    rw [hexit] at hnext
    exact h.value?_inj hnext h.value?_exit

lemma value?_runFrom (h : d.Realizes m) (hi : d.numbering.value? i = some s)
    (xs : List (Symbol k)) :
    d.numbering.value? (d.runFrom i xs) = some (m.runFrom s xs) := by
  induction xs generalizing i s with
  | nil => exact hi
  | cons x xs ih =>
    rw [runFrom, Model.runFrom]
    by_cases hexit : m.next s x = m.exit
    · rw [if_pos ((h.transit_eq_exitId_iff hi x).mpr hexit), if_pos hexit]
      exact h.value?_exit
    · rw [if_neg fun hc => hexit ((h.transit_eq_exitId_iff hi x).mp hc), if_neg hexit]
      exact ih (h.value?_transit hi x)

/-- A dispatcher for a model runs like the model. -/
lemma run_eq (h : d.Realizes m) (xs : List (Symbol k)) : d.run xs = m.run xs :=
  Numbering.resolve_eq (h.value?_runFrom h.value?_init xs)

/-- With one numbering, the states on the way have the same numbers. -/
lemma stampFrom_eq (h : d.Realizes m) (h' : d'.Realizes m) (hn : d.numbering = d'.numbering)
    (hi : d.numbering.value? i = some s) (hash : Int64) (xs : List (Symbol k)) :
    d.stampFrom i hash xs = d'.stampFrom i hash xs := by
  induction xs generalizing i s hash with
  | nil => rfl
  | cons x xs ih =>
    have hnext := h.value?_transit hi x
    have hnext' := h'.value?_transit (hn ▸ hi) x
    rw [← hn] at hnext'
    rw [stampFrom, stampFrom, h.value?_inj hnext' hnext, ih hnext]

lemma stamp_singleton (h : d.Realizes m) {x : Symbol k}
    (hi : d.numbering.value? i = some (m.next m.init.value x)) (hexit : i ≠ exitId) :
    d.machine.stamp [x] = 31 + i.toUInt64.toInt64 := by
  have hnext := h.value?_inj (h.value?_transit h.value?_init x) hi
  show d.stampFrom initId 1 [x] = _
  rw [stampFrom, stampFrom, hnext, if_neg hexit, Int64.one_mul]

end Realizes

/-- Two dispatchers with the same labels by number, whose machines run and stamp alike. -/
structure Indistinguishable (d d' : Dispatcher σ k) : Prop where
  values_eq : d.numbering.values = d'.numbering.values
  run_eq : ∀ xs, d.machine.run xs = d'.machine.run xs
  stamp_eq : ∀ xs, d.machine.stamp xs = d'.machine.stamp xs

/-- Only the order of the labels can tell apart two dispatchers for a model. -/
lemma Realizes.indistinguishable_iff (h : d.Realizes m) (h' : d'.Realizes m) :
    d.Indistinguishable d' ↔ d.numbering.values = d'.numbering.values := by
  constructor
  · exact Indistinguishable.values_eq
  · intro hvalues
    refine ⟨hvalues, fun xs => (h.run_eq xs).trans (h'.run_eq xs).symm, fun xs => ?_⟩
    exact h.stampFrom_eq h' (Numbering.ext hvalues) h.value?_init 1 xs

end Dispatcher

end Runs

/-! ### Where dispatchers come from -/

section

variable {ι : Type} [LabelTypes ι]

lemma LabelList.values_eq {t : ι} {l l' : List (Carrier t)}
    (h : (⟨t, l⟩ : LabelList ι) = ⟨t, l'⟩) : l = l' :=
  eq_of_heq (LabelList.mk.inj h).2

namespace Job

/-- The labels of a model by number, with their type. -/
def numbered (j : Job ι) : LabelList ι := ⟨j.labels, j.model.labels⟩

/-- Jobs with the same key have models that agree. -/
lemma Proper.exists_agrees [∀ t : ι, LegibleLabel (Carrier t)] {j j' : Job ι}
    (hj' : j'.Proper) (h : j'.key = j.key) :
    ∃ m : Model (Carrier j.labels) j.symbols.kind,
      m.Built ∧ m.Agrees j.model ∧ j'.numbered = ⟨j.labels, m.labels⟩ := by
  obtain ⟨labels, symbols, model⟩ := j'
  obtain ⟨rfl, rfl, hfp⟩ := CacheKey.mk.inj h
  exact ⟨model, hj'.built, Model.agrees_of_fingerprint_eq hfp, rfl⟩

end Job

/-- A dispatcher numbers the states in the order of a model that was ordered under its key. -/
def OrderedIn (rs : List (Request ι)) : CacheProperty ι := fun key d =>
  ∃ o j, Request.order o j ∈ rs ∧ j.key = key ∧
    j.numbered = ⟨key.labels, d.dispatcher.numbering.values⟩

lemma Job.upholds_orderedIn {rs : List (Request ι)} {o : Order} {j : Job ι} (h : .order o j ∈ rs) :
    j.Upholds (fun _ => True) (OrderedIn rs) fun _ => True := by
  intro b _ _
  refine ⟨trivial, fun d hd => ⟨o, j, h, rfl, ?_⟩⟩
  rw [numbered, Bench.values_of_compile hd]

end

namespace Workshop

section

variable {ι : Type} [LabelTypes ι] [DecidableEq ι] {j : Job ι} {w : Workshop ι}
  {a a' : Answer ι j.key.Item} {d d' : j.key.Item} {rs rs' : List (Request ι)} {o : Order}

/-- What is handed out for a model was made for an order under the same key. -/
lemma orderedIn_of_fulfil (h : (after rs).fulfil j o = some a) (hd : a.result = .ok d) :
    OrderedIn (rs ++ [.order o j]) j.key d := by
  have hself : Request.order o j ∈ rs ++ [.order o j] := by simp
  have hanswers := answers_after (fun _ _ _ h => h) (fun _ _ => trivial)
    (fun _ _ hmem => Job.upholds_orderedIn (List.mem_append_left _ hmem))
    (Job.upholds_orderedIn hself) h fun _ _ => trivial
  exact hanswers.property d hd

/-- Whatever is handed out for a model is a dispatcher for the model. -/
lemma realizes_of_fulfil [∀ t : ι, LegibleLabel (Carrier t)] (hrs : OnlyOrders Job.Proper rs)
    (hj : j.Proper) (h : (after rs).fulfil j o = some a)
    (hnames : a.workshop.Meets Station.NamesApart) (hd : a.result = .ok d) :
    d.dispatcher.Realizes j.model := by
  have hroute := routedBy_of_fulfil hrs hj h hnames hd
  -- the dispatcher may have been made for an earlier order
  obtain ⟨o', j', hmem, hkey, hnumbered⟩ := orderedIn_of_fulfil h hd
  have hj' : j'.Proper := by
    rcases List.mem_append.mp hmem with hmem | hmem
    · exact hrs o' j' hmem
    · obtain ⟨-, rfl⟩ := Request.order.inj (List.mem_singleton.mp hmem)
      exact hj
  obtain ⟨m, hm, hagree, hlabels⟩ := hj'.exists_agrees hkey
  have hvalues : d.dispatcher.numbering.values = m.labels := by
    rw [hlabels] at hnumbered
    exact LabelList.values_eq hnumbered.symm
  have hperm := hagree.perm_labels hm.valid hj.built.valid
  refine ⟨hvalues ▸ hperm, ?_, ?_, ?_, hroute⟩
  · rw [Numbering.size, hvalues, hperm.length_eq, Model.length_labels]
    exact hj.small.le
  · rw [Numbering.value?, hvalues, ← hagree.exit_eq]
    rfl
  · rw [Numbering.value?, hvalues, ← hagree.init.value_eq]
    rfl

/-- What the cache of a compiler has for a model. -/
def cachedFor (w : Workshop ι) (i : Nat) (j : Job ι) : Option j.key.Item :=
  w.stations[i]?.bind fun st => w.cached st.cache j

/-- A compiler hands out what its cache has for a model. If that is nothing, then what it hands out
is new, and cached from then on. -/
lemma fulfil_compile_eq_ok {i : Nat} (h : w.fulfil j (.compile i) = some a)
    (hd : a.result = .ok d) :
    (w.cachedFor i j = some d ∨
      w.cachedFor i j = none ∧ d.dispatcher.numbering.values = j.model.labels) ∧
    ∃ st, w.stations[i]? = some st ∧ a.workshop.cached st.cache j = some d := by
  rcases compile_eq_some h with ⟨e, he, -⟩ | ⟨st, hst, h⟩
  · rw [he] at hd
    cases hd
  · obtain ⟨st', c, -, hc, hresult, hworkshop⟩ := findOrCompile_eq_some h
    rw [hresult] at hd
    obtain ⟨hfound, hkept⟩ := Cache.findOrMake_eq_ok hd
    have hcached : w.cachedFor i j = c.find? j.key := by
      rw [cachedFor, hst, Option.bind_some, cached, hc]
      rfl
    rw [hcached]
    refine ⟨hfound.imp_right (And.imp_right fun hnew => ?_), st, hst, ?_⟩
    · rw [Bench.publishing_fst] at hnew
      exact Bench.values_of_compile hnew
    · have hlt := (List.getElem?_eq_some_iff.mp hc).1
      rw [hworkshop]
      exact Option.bind_eq_some_iff.mpr ⟨_, List.getElem?_set_self hlt, hkept⟩

lemma values_of_fulfil_compileUncached {i : Nat} (h : w.fulfil j (.compileUncached i) = some a)
    (hd : a.result = .ok d) : d.dispatcher.numbering.values = j.model.labels := by
  obtain ⟨st, -, rfl⟩ := Option.map_eq_some_iff.mp h
  exact Bench.values_of_compile hd

/-- What is cached for a model was made for an order under the same key. -/
lemma orderedIn_of_cachedFor {i : Nat} (h : (after rs).cachedFor i j = some d) :
    OrderedIn rs j.key d := by
  have hupholds : (after rs).Upholds (OrderedIn rs) fun _ => True :=
    upholds_after (A := fun _ => True) (fun _ _ _ h => h) (fun _ _ => trivial)
      (fun o j hmem => Job.upholds_orderedIn hmem) fun _ _ => trivial
  obtain ⟨st, -, h⟩ := Option.bind_eq_some_iff.mp h
  obtain ⟨c, hc, hfind⟩ := Option.bind_eq_some_iff.mp h
  exact (hupholds.caches c (List.mem_of_getElem? hc)).find? hfind

/-- What a cache lets through, for all kinds of symbols and all types of labels whose texts can be
read back, as long as digests keep the names of routines apart that one compiler asked for. Whatever
was ordered before, a dispatcher that a compiler takes from its cache or makes runs like one that is
made anew, and numbers the same labels. The two have the same numbers and stamps exactly if the
cache had nothing for the model, or had a dispatcher that numbers the states in the order of the
model; so they have if all models that were ordered under the key of the model declare their states
in one order. -/
theorem compile_transparent_iff [∀ t : ι, LegibleLabel (Carrier t)]
    (hrs : OnlyOrders Job.Proper rs) (hrs' : OnlyOrders Job.Proper rs') (hj : j.Proper) {i i' : Nat}
    (h : (after rs).fulfil j (.compile i) = some a) (hd : a.result = .ok d)
    (hnames : a.workshop.Meets Station.NamesApart)
    (h' : (after rs').fulfil j (.compileUncached i') = some a') (hd' : a'.result = .ok d')
    (hnames' : a'.workshop.Meets Station.NamesApart) :
    (∀ xs, d.dispatcher.machine.run xs = d'.dispatcher.machine.run xs) ∧
    d.dispatcher.numbering.values.Perm d'.dispatcher.numbering.values ∧
    (d.dispatcher.Indistinguishable d'.dispatcher ↔
      ∀ e, (after rs).cachedFor i j = some e →
        e.dispatcher.numbering.values = j.model.labels) ∧
    ((∀ o j', .order o j' ∈ rs → j'.key = j.key → j'.numbered = j.numbered) →
      d.dispatcher.Indistinguishable d'.dispatcher) := by
  have hreal := realizes_of_fulfil hrs hj h hnames hd
  have hreal' := realizes_of_fulfil hrs' hj h' hnames' hd'
  have hiff : d.dispatcher.Indistinguishable d'.dispatcher ↔
      ∀ e, (after rs).cachedFor i j = some e →
        e.dispatcher.numbering.values = j.model.labels := by
    rw [hreal.indistinguishable_iff hreal', values_of_fulfil_compileUncached h' hd']
    rcases (fulfil_compile_eq_ok h hd).1 with hhit | ⟨hmiss, hnew⟩
    · simp [hhit]
    · simp [hmiss, hnew]
  refine ⟨fun xs => (hreal.run_eq xs).trans (hreal'.run_eq xs).symm,
    hreal.perm.trans hreal'.perm.symm, hiff, fun hone => hiff.mpr fun e he => ?_⟩
  obtain ⟨o, j', hmem, hkey, hnumbered⟩ := orderedIn_of_cachedFor he
  rw [hone o j' hmem hkey] at hnumbered
  exact LabelList.values_eq hnumbered.symm

lemma cachedFor_of_key_eq {i : Nat} {j' : Job ι} (hkey : j'.key = j.key) {e : j'.key.Item}
    (h : w.cachedFor i j' = some e) : ∃ e', w.cachedFor i j = some e' := by
  obtain ⟨labels, symbols, model⟩ := j'
  obtain ⟨rfl, rfl, hfp⟩ := CacheKey.mk.inj hkey
  refine ⟨e, ?_⟩
  simp only [cachedFor, cached, Job.key] at h ⊢
  rw [← hfp]
  exact h

end

/-- The reversed model, while the cache has a dispatcher of the disguised one. -/
theorem compile_transparent_iff_reversed :
    ∃ (a a' : Answer LabelType (Issued String .str)) (d d' : Issued String .str),
      (after sharingRequests).fulfil reversedJob (.compile 1) = some a ∧ a.result = .ok d ∧
      (after sharingRequests).fulfil reversedJob (.compileUncached 1) = some a' ∧
      a'.result = .ok d' ∧
      (∀ xs, d.dispatcher.machine.run xs = d'.dispatcher.machine.run xs) ∧
      (d.dispatcher.Indistinguishable d'.dispatcher ↔
        ∀ e : Issued String .str, (after sharingRequests).cachedFor 1 reversedJob = some e →
          e.dispatcher.numbering.values = ["a", "a(", ";", "|"]) := by
  obtain ⟨a, d, ha, hd⟩ :=
    exists_fulfil_compile (w := after sharingRequests) (j := reversedJob) (i := 1) rfl rfl rfl
  obtain ⟨a', d', ha', hd'⟩ :=
    exists_fulfil_compileUncached (w := after sharingRequests) (j := reversedJob) (i := 1) rfl rfl
  obtain ⟨hrun, -, hiff, -⟩ := compile_transparent_iff onlyOrders_sharing onlyOrders_sharing
    proper_reversedJob ha hd (namesApart_of_fulfil_reversedJob rfl ha) ha' hd'
    (namesApart_of_fulfil_reversedJob rfl ha')
  exact ⟨a, a', d, d', ha, hd, ha', hd', hrun, hiff⟩

/-- The second compiler finds a dispatcher for the reversed model. -/
lemma exists_cachedFor_reversedJob :
    ∃ e, (after sharingRequests).cachedFor 1 reversedJob = some e := by
  -- the first compiler was asked for the disguised model, and has cached what it handed out
  obtain ⟨a, d, ha, hd⟩ := exists_fulfil_compile (w := after (sharingRequests.take 2))
    (j := disguisedJob) (i := 0) rfl rfl rfl
  obtain ⟨-, st, hst, hcached⟩ := fulfil_compile_eq_ok ha hd
  cases hst
  have hafter : after sharingRequests = a.workshop :=
    (after_append_singleton (sharingRequests.take 2) _).trans (perform_of_fulfil ha)
  have hdisguised : (after sharingRequests).cachedFor 1 disguisedJob = some d :=
    Option.bind_eq_some_iff.mpr ⟨_, rfl, hafter ▸ hcached⟩
  have hfp : disguisedJob.model.fingerprint = reversedJob.model.fingerprint :=
    Model.fingerprint_eq_of_perm _ _ (List.reverse_perm _).symm
  have hkey : disguisedJob.key = reversedJob.key :=
    congrArg (CacheKey.mk LabelType.str (.plain .str)) hfp
  exact cachedFor_of_key_eq hkey hdisguised

/-- Stamps depend on what was compiled before: the second compiler numbers the states of the
reversed model in the order of the disguised one, unless it leaves the cache aside. -/
theorem cached_stamp_of_reversed :
    ∃ (a a' : Answer LabelType (Issued String .str)) (d d' : Issued String .str),
      (after sharingRequests).fulfil reversedJob (.compile 1) = some a ∧ a.result = .ok d ∧
      (after sharingRequests).fulfil reversedJob (.compileUncached 1) = some a' ∧
      a'.result = .ok d' ∧
      d.dispatcher.numbering.values = ["a", "a(", "|", ";"] ∧
      d'.dispatcher.numbering.values = ["a", "a(", ";", "|"] ∧
      d.dispatcher.machine.stamp ["x"] = 34 ∧ d'.dispatcher.machine.stamp ["x"] = 33 := by
  obtain ⟨a, d, ha, hd⟩ :=
    exists_fulfil_compile (w := after sharingRequests) (j := reversedJob) (i := 1) rfl rfl rfl
  obtain ⟨a', d', ha', hd'⟩ :=
    exists_fulfil_compileUncached (w := after sharingRequests) (j := reversedJob) (i := 1) rfl rfl
  have hcached : (after sharingRequests).cachedFor 1 reversedJob = some d := by
    obtain ⟨e, he⟩ := exists_cachedFor_reversedJob
    rcases (fulfil_compile_eq_ok ha hd).1 with hhit | ⟨hmiss, -⟩
    · exact hhit
    · rw [hmiss] at he
      cases he
  have hvalues : d.dispatcher.numbering.values = ["a", "a(", "|", ";"] := by
    obtain ⟨o, j, hmem, -, hnumbered⟩ := orderedIn_of_cachedFor hcached
    obtain ⟨-, rfl⟩ : o = .compile 0 ∧ j = disguisedJob := by simpa [sharingRequests] using hmem
    exact LabelList.values_eq hnumbered.symm
  have hvalues' : d'.dispatcher.numbering.values = ["a", "a(", ";", "|"] :=
    values_of_fulfil_compileUncached ha' hd'
  have hnext : (Model.disguised Model.disguisedStates.reverse).next "a(" "x" = ";" := by
    decide +kernel
  have hreal := realizes_of_fulfil onlyOrders_sharing proper_reversedJob ha
    (namesApart_of_fulfil_reversedJob rfl ha) hd
  have hreal' := realizes_of_fulfil onlyOrders_sharing proper_reversedJob ha'
    (namesApart_of_fulfil_reversedJob rfl ha') hd'
  refine ⟨a, a', d, d', ha, hd, ha', hd', hvalues, hvalues', ?_, ?_⟩
  · apply hreal.stamp_singleton (i := 3) _ (by decide)
    rw [Numbering.value?, hvalues]
    exact congrArg some hnext.symm
  · apply hreal'.stamp_singleton (i := 2) _ (by decide)
    rw [Numbering.value?, hvalues']
    exact congrArg some hnext.symm

end Workshop

end StateMachine
