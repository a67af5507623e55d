import StateMachine.Plan
import StateMachine.Proofs.Draft
import StateMachine.Proofs.Numbering
import StateMachine.Proofs.Switch

/-!
# Plans lead where their models lead

A branch looks a symbol up among explicit symbols and the ends of ranges before it tries the
ranges. For unambiguous edges this leads where the first matching edge leads, whatever the layout
of the switch. Numbers and labels then correspond, so a plan routes numbers as its model routes
labels.
-/

namespace StateMachine

variable {σ τ : Type} {k : Kind}

/-! ### Traversals -/

lemma bind_eq_ok {ε α β : Type} {x : Except ε α} {f : α → Except ε β} {b : β} :
    x >>= f = .ok b ↔ ∃ a, x = .ok a ∧ f a = .ok b := by
  cases x with
  | error e => simp [bind, Except.bind]
  | ok a => simp [bind, Except.bind]

lemma mapError_eq_ok {ε ε' α : Type} {x : Except ε α} {f : ε → ε'} {a : α} :
    x.mapError f = .ok a ↔ x = .ok a := by
  cases x with
  | error e => simp [Except.mapError]
  | ok a => simp [Except.mapError]

/-- A sequence succeeds if both of its parts do. -/
lemma Logged.bind_eq_ok {ε α β : Type} {x : Logged ε α} {f : α → Logged ε β} {b : β} :
    (x >>= f).result = .ok b ↔ ∃ a, x.result = .ok a ∧ (f a).result = .ok b := by
  rw [Logged.result_bind, StateMachine.bind_eq_ok]

lemma Logged.result_mapM {ε α β : Type} (f : α → Logged ε β) (l : List α) :
    (l.mapM f).result = l.mapM fun a => (f a).result := by
  have hloop : ∀ acc : List β, (List.mapM.loop f l acc).result
      = List.mapM.loop (fun a => (f a).result) l acc := by
    induction l with
    | nil => intro acc; rfl
    | cons a l ih =>
      intro acc
      simp only [List.mapM.loop, Logged.result_bind, ih]
  exact hloop []

/-- A traversal that succeeds does so at every element. -/
lemma forall₂_of_mapM_eq_ok {ε α β : Type} {f : α → Except ε β} {l : List α} {l' : List β}
    (h : l.mapM f = .ok l') : List.Forall₂ (fun a b => f a = .ok b) l l' := by
  induction l generalizing l' with
  | nil =>
    cases h
    exact .nil
  | cons a l ih =>
    rw [List.mapM_cons] at h
    obtain ⟨b, hb, h⟩ := bind_eq_ok.mp h
    obtain ⟨bs, hbs, h⟩ := bind_eq_ok.mp h
    cases h
    exact .cons hb (ih hbs)

/-! ### Entries of a switch -/

/-- The symbols of the guards that are picked, with their targets. -/
lemma mem_flatMap_values {edges : List (StateId × Guard k)} {p : Guard k → Bool} {v : Symbol k}
    {t : StateId} :
    (v, t) ∈ edges.flatMap (fun e => if p e.2 then e.2.values.map (·, e.1) else []) ↔
      ∃ g, (t, g) ∈ edges ∧ p g = true ∧ v ∈ g.values := by
  simp only [List.mem_flatMap, Prod.exists]
  constructor
  · rintro ⟨t', g, hmem, hv⟩
    split_ifs at hv with hp
    · obtain ⟨w, hw, heq⟩ := List.mem_map.mp hv
      cases heq
      exact ⟨g, hmem, hp, hw⟩
    · simp at hv
  · rintro ⟨g, hmem, hp, hv⟩
    exact ⟨t, g, hmem, by simpa [hp] using hv⟩

lemma mem_explicitEntries {edges : List (StateId × Guard k)} {v : Symbol k} {t : StateId} :
    (v, t) ∈ explicitEntries edges ↔
      ∃ g, (t, g) ∈ edges ∧ g.isRange = false ∧ v ∈ g.values := by
  have hentries : explicitEntries edges
      = edges.flatMap (fun e => if !e.2.isRange then e.2.values.map (·, e.1) else []) := by
    refine congrArg (fun f => edges.flatMap f) (funext fun e => ?_)
    cases e.2.isRange <;> rfl
  rw [hentries, mem_flatMap_values (p := fun g => !g.isRange)]
  simp only [Bool.not_eq_true']

lemma mem_boundaryEntries {edges : List (StateId × Guard k)} {v : Symbol k} {t : StateId} :
    (v, t) ∈ boundaryEntries edges ↔
      ∃ g, (t, g) ∈ edges ∧ g.isRange = true ∧ v ∈ g.values :=
  mem_flatMap_values

lemma mem_rangeArms {edges : List (StateId × Guard k)} {arm : RangeArm k} :
    arm ∈ rangeArms edges ↔ (arm.target, .range arm.start arm.stop) ∈ edges := by
  simp only [rangeArms, List.mem_filterMap, Prod.exists]
  constructor
  · rintro ⟨t, g, hmem, h⟩
    cases g with
    | range a b =>
      cases h
      exact hmem
    | single v => cases h
    | set vs => cases h
  · intro h
    exact ⟨_, _, h, rfl⟩

/-! ### Branches -/

/-- A state among numbers, with numbered edges and a fallback. -/
def numberedState (edges : List (StateId × Guard k)) (fallback : StateId) : State StateId k :=
  ⟨exitId, edges.map fun e => ⟨e.1, e.2⟩, some fallback⟩

lemma mem_numberedState {edges : List (StateId × Guard k)} {fallback t : StateId} {g : Guard k} :
    (⟨t, g⟩ : Edge StateId k) ∈ (numberedState edges fallback).conditional ↔ (t, g) ∈ edges := by
  simp [numberedState]

/-- A switch leads where its edges lead: explicit symbols were put in last, and the ends of a range
lie in it. -/
lemma Branch.transit_switch {edges : List (StateId × Guard k)} {fallback : StateId}
    (hu : Unambiguous (numberedState edges fallback).conditional) {map : SwitchMap k StateId}
    (hmap : ∀ x, map.find? x = lastPayload? (boundaryEntries edges ++ explicitEntries edges) x)
    (x : Symbol k) :
    (Branch.switch map (rangeArms edges) fallback).transit x
      = (numberedState edges fallback).next exitId x := by
  simp only [transit, hmap, lastPayload?_append]
  cases hexp : lastPayload? (explicitEntries edges) x with
  | some t =>
    obtain ⟨⟨v, t⟩, hmem, hsame, rfl⟩ := exists_of_lastPayload? hexp
    obtain ⟨g, hg, hr, hv⟩ := mem_explicitEntries.mp hmem
    have hx : g.accepts x = true := (Guard.accepts_iff_of_explicit hr).mpr ⟨v, hv, hsame⟩
    exact (State.next_of_explicit hu (mem_numberedState.mpr hg) hr hx).symm
  | none =>
    -- no explicit edge accepts the symbol, so ranges may decide
    have hno : ∀ e ∈ (numberedState edges fallback).conditional, e.guard.isRange = false →
        e.guard.accepts x = false := by
      rintro ⟨t, g⟩ he hr
      by_contra hc
      obtain ⟨v, hv, hsame⟩ := (Guard.accepts_iff_of_explicit hr).mp (by simpa using hc)
      have hmem := mem_explicitEntries.mpr ⟨g, mem_numberedState.mp he, hr, hv⟩
      simp [lastPayload?_eq_none_iff.mp hexp _ hmem] at hsame
    rw [Option.none_or]
    cases hbound : lastPayload? (boundaryEntries edges) x with
    | some t =>
      -- the end of a range
      obtain ⟨⟨v, t⟩, hmem, hsame, rfl⟩ := exists_of_lastPayload? hbound
      obtain ⟨g, hg, hr, hv⟩ := mem_boundaryEntries.mp hmem
      have hwf := hu.wellFormed _ (mem_numberedState.mpr hg)
      have hx : g.accepts x = true := by
        obtain ⟨a, b, rfl⟩ := Guard.isRange_iff.mp hr
        apply Guard.range_accepts_ends hwf
        rcases List.mem_pair.mp hv with rfl | rfl
        · exact Or.inl hsame
        · exact Or.inr hsame
      exact (State.next_of_range hu hno (mem_numberedState.mpr hg) hr hx).symm
    | none =>
      cases hfind : (rangeArms edges).find? fun arm => x.within arm.start arm.stop with
      | some arm =>
        have hmem := mem_rangeArms.mp (List.mem_of_find?_eq_some hfind)
        have hx : (Guard.range arm.start arm.stop).accepts x = true := by
          simpa [Guard.accepts] using List.find?_some hfind
        exact (State.next_of_range hu hno (mem_numberedState.mpr hmem) rfl hx).symm
      | none =>
        have hnone : ∀ e ∈ (numberedState edges fallback).conditional,
            e.guard.accepts x = false := by
          rintro ⟨t, g⟩ he
          by_cases hr : g.isRange = true
          · obtain ⟨a, b, rfl⟩ := Guard.isRange_iff.mp hr
            have hmem : (⟨a, b, t⟩ : RangeArm k) ∈ rangeArms edges :=
              mem_rangeArms.mpr (mem_numberedState.mp he)
            simpa [Guard.accepts] using List.find?_eq_none.mp hfind _ hmem
          · exact hno _ he (by simpa using hr)
        rw [State.next_of_none hnone]
        rfl

/-- The three shapes of a branch. -/
lemma Branch.ofEdges_eq_ok {config : Config} {edges : List (StateId × Guard k)}
    {fallback : StateId} {b : Branch k} (h : (ofEdges config edges fallback).result = .ok b) :
    (edges = [] ∧ b = .jump fallback) ∨
      (∃ target value, edges = [(target, .single value)] ∧ b = .single value target fallback) ∨
      ∃ map, (SwitchMap.ofEntries (boundaryEntries edges ++ explicitEntries edges)
        config.maxDelta config.strategy).result = .ok map ∧
          b = .switch map (rangeArms edges) fallback := by
  unfold ofEdges at h
  split at h
  · cases h
    exact Or.inl ⟨rfl, rfl⟩
  · next target value =>
    cases h
    exact Or.inr (Or.inl ⟨target, value, rfl, rfl⟩)
  · obtain ⟨map, hmap, hpure⟩ := Logged.bind_eq_ok.mp h
    cases hpure
    exact Or.inr (Or.inr ⟨map, mapError_eq_ok.mp hmap, rfl⟩)

/-- Every shape of a branch leads where its edges lead. -/
lemma Branch.transit_ofEdges {config : Config} {edges : List (StateId × Guard k)}
    {fallback : StateId} {b : Branch k} (h : (ofEdges config edges fallback).result = .ok b)
    (hu : Unambiguous (numberedState edges fallback).conditional) (x : Symbol k) :
    b.transit x = (numberedState edges fallback).next exitId x := by
  rcases ofEdges_eq_ok h with ⟨rfl, rfl⟩ | ⟨target, value, rfl, rfl⟩ | ⟨map, hmap, rfl⟩
  · rfl
  · by_cases hs : value.same x = true
    · have hmem : (target, Guard.single value) ∈ [(target, Guard.single value)] := by simp
      rw [State.next_of_explicit hu (mem_numberedState.mpr hmem) rfl hs]
      simp [transit, hs]
    · have hnone : ∀ e ∈ (numberedState [(target, .single value)] fallback).conditional,
          e.guard.accepts x = false := by
        simpa [numberedState, Guard.accepts] using hs
      rw [State.next_of_none hnone]
      simp [transit, hs, numberedState]
  · exact transit_switch hu (SwitchMap.find?_ofEntries hmap) x

/-- Where symbols lead does not depend on the names of the targets. -/
lemma State.next_map (s : State σ k) (f : σ → τ) (exit : σ) (v exit' : τ) (x : Symbol k) :
    (⟨v, s.conditional.map fun e => ⟨f e.target, e.guard⟩, some (f (s.fallback.getD exit))⟩ :
      State τ k).next exit' x = f (s.next exit x) := by
  simp only [next, List.find?_map, Function.comp_def]
  cases s.conditional.find? fun e => !e.guard.isRange && e.guard.accepts x with
  | some e => rfl
  | none =>
    cases s.conditional.find? fun e => e.guard.isRange && e.guard.accepts x with
    | some e => rfl
    | none => rfl

/-- The number of a label, or that of the exit if it has none. -/
def Numbering.idD [DecidableEq σ] (n : Numbering σ) (s : σ) : StateId := (n.id? s).getD exitId

lemma Numbering.idD_eq [DecidableEq σ] {n : Numbering σ} {s : σ} {i : StateId}
    (h : n.id? s = some i) : n.idD s = i := by
  rw [idD, h]
  rfl

section

variable [DecidableEq σ] [Label σ]

lemma Numbering.require_eq_ok {n : Numbering σ} {s : σ} {i : StateId} :
    (n.require s).result = .ok i ↔ n.id? s = some i := by
  rw [require]
  cases n.id? s <;> simp

lemma Numbering.require_idD {n : Numbering σ} {s : σ} {i : StateId}
    (h : (n.require s).result = .ok i) : n.id? s = some (n.idD s) ∧ i = n.idD s := by
  have hid := require_eq_ok.mp h
  rw [idD_eq hid]
  exact ⟨hid, rfl⟩

/-- An edge with the number of its target. -/
def Numbering.numberEdge (n : Numbering σ) (e : Edge σ k) : Logged Error (StateId × Guard k) := do
  let i ← n.require e.target
  pure (i, e.guard)

lemma Numbering.numberEdge_eq_ok {n : Numbering σ} {e : Edge σ k} {e' : StateId × Guard k}
    (h : (n.numberEdge e).result = .ok e') :
    n.id? e.target = some (n.idD e.target) ∧ e' = (n.idD e.target, e.guard) := by
  obtain ⟨i, hi, hpair⟩ := Logged.bind_eq_ok.mp h
  obtain ⟨hid, rfl⟩ := require_idD hi
  cases hpair
  exact ⟨hid, rfl⟩

/-- Edges that can be numbered have targets with numbers. -/
lemma Numbering.numberEdges_eq_ok {n : Numbering σ} {es : List (Edge σ k)}
    {edges : List (StateId × Guard k)} (h : (es.mapM n.numberEdge).result = .ok edges) :
    (∀ e ∈ es, n.id? e.target = some (n.idD e.target)) ∧
      edges = es.map fun e => (n.idD e.target, e.guard) := by
  rw [Logged.result_mapM] at h
  have hall := forall₂_of_mapM_eq_ok h
  clear h
  induction hall with
  | nil => simp
  | cons he _ ih =>
    obtain ⟨hid, rfl⟩ := numberEdge_eq_ok he
    obtain ⟨htargets, rfl⟩ := ih
    exact ⟨List.forall_mem_cons.mpr ⟨hid, htargets⟩, rfl⟩

/-- If the transitions of a state can be arranged, all their targets have numbers. -/
lemma Branch.ofState_eq_ok {config : Config} {n : Numbering σ} {s : State σ k} {b : Branch k}
    (h : (ofState config n s).result = .ok b) :
    (∀ t, s.fallback = some t → n.id? t = some (n.idD t)) ∧
      (∀ e ∈ s.conditional, n.id? e.target = some (n.idD e.target)) ∧
      (ofEdges config (s.conditional.map fun e => (n.idD e.target, e.guard))
        ((s.fallback.map n.idD).getD exitId)).result = .ok b := by
  rw [ofState] at h
  cases hf : s.fallback with
  | none =>
    rw [hf] at h
    obtain ⟨i, hi, h⟩ := Logged.bind_eq_ok.mp h
    cases hi
    obtain ⟨edges, hedges, h⟩ := Logged.bind_eq_ok.mp h
    obtain ⟨htargets, rfl⟩ := Numbering.numberEdges_eq_ok hedges
    exact ⟨by simp, htargets, h⟩
  | some t =>
    rw [hf] at h
    obtain ⟨i, hi, h⟩ := Logged.bind_eq_ok.mp h
    obtain ⟨hid, rfl⟩ := Numbering.require_idD hi
    obtain ⟨edges, hedges, h⟩ := Logged.bind_eq_ok.mp h
    obtain ⟨htargets, rfl⟩ := Numbering.numberEdges_eq_ok hedges
    refine ⟨?_, htargets, h⟩
    rintro t' ⟨⟩
    exact hid

/-- A state that can be arranged leads to labels that have numbers, and its branch leads to these
numbers. -/
lemma Branch.id?_next_of_ofState {config : Config} {n : Numbering σ} {s : State σ k} {b : Branch k}
    (h : (ofState config n s).result = .ok b) (hs : Unambiguous s.conditional) {exit : σ}
    (hexit : n.id? exit = some exitId) (x : Symbol k) :
    n.id? (s.next exit x) = some (b.transit x) := by
  obtain ⟨hfallback, htargets, hedges⟩ := ofState_eq_ok h
  -- the branch was made for the state with its labels replaced by their numbers
  have hnumbered : numberedState (s.conditional.map fun e => (n.idD e.target, e.guard))
      ((s.fallback.map n.idD).getD exitId) = ⟨exitId, s.conditional.map fun e =>
        ⟨n.idD e.target, e.guard⟩, some (n.idD (s.fallback.getD exit))⟩ := by
    rw [numberedState, List.map_map]
    cases s.fallback with
    | none => simp [Function.comp_def, Numbering.idD_eq hexit]
    | some t => simp [Function.comp_def]
  have hnext : b.transit x = n.idD (s.next exit x) := by
    rw [transit_ofEdges hedges (hnumbered ▸ hs.map n.idD) x, hnumbered, State.next_map]
  rw [hnext]
  rcases s.next_cases exit x with ⟨e, he, heq⟩ | heq
  · rw [heq]
    exact htargets e he
  · rw [heq]
    cases hf : s.fallback with
    | none => simp [hexit, Numbering.idD]
    | some t => exact hfallback t hf

/-! ### Plans -/

omit [DecidableEq σ] [Label σ] in
lemma Model.length_labels (m : Model σ k) : m.labels.length = m.stateCount := by
  simp [labels, sources, stateCount]

omit [DecidableEq σ] [Label σ] in
lemma Model.Valid.nodup_labels {m : Model σ k} (hm : m.Valid) : m.labels.Nodup :=
  List.nodup_cons.mpr ⟨hm.exit_not_source, hm.nodup⟩

omit [DecidableEq σ] [Label σ] in
lemma Model.Agrees.mem_labels {m m' : Model σ k} (h : m.Agrees m') {s : σ} (hs : s ∈ m.labels) :
    s ∈ m'.labels := by
  rw [labels, List.mem_cons] at hs ⊢
  rw [← h.exit_eq]
  exact hs.imp_right h.mem_source_values

/-- Numbers lead where the labels that they stand for lead in the model. -/
def Model.RoutedBy (m : Model σ k) (n : Numbering σ) (route : StateId → Symbol k → StateId) :
    Prop :=
  ∀ s ∈ m.labels, ∃ i, n.id? s = some i ∧ ∀ x, n.resolve (route i x) = m.next s x

namespace Compiler

variable {c : Compiler} {m : Model σ k} {n : Numbering σ} {p : Plan k}

/-- A plan numbers the labels in order, and has a branch for each of them. -/
lemma plan_eq_ok (h : (c.plan m).result = .ok (n, p)) :
    n.values = m.labels ∧ ∃ branches, p = ⟨.jump exitId :: branches⟩ ∧
      List.Forall₂ (fun s b => (Branch.ofState c.config n s).result = .ok b) m.sources
        branches := by
  obtain ⟨-, -, h⟩ := Logged.bind_eq_ok.mp h
  obtain ⟨n', hn, h⟩ := Logged.bind_eq_ok.mp h
  obtain ⟨branches, hbranches, h⟩ := Logged.bind_eq_ok.mp h
  cases h
  rw [Logged.result_ofExcept] at hn
  rw [Logged.result_mapM] at hbranches
  exact ⟨Numbering.ofValues_eq_ok hn, branches, rfl, forall₂_of_mapM_eq_ok hbranches⟩

lemma size_of_plan (h : (c.plan m).result = .ok (n, p)) : n.size = m.stateCount := by
  rw [Numbering.size, (plan_eq_ok h).1, Model.length_labels]

lemma length_branches_of_plan (h : (c.plan m).result = .ok (n, p)) :
    p.branches.length = m.stateCount := by
  obtain ⟨-, branches, rfl, hbranches⟩ := plan_eq_ok h
  rw [List.length_cons, ← hbranches.length_eq, Model.sources, Model.stateCount, List.length_cons]

/-- The number of any label but the exit has the branch of its state. -/
lemma branch?_of_plan (h : (c.plan m).result = .ok (n, p)) {i : StateId} (hi : i ≠ exitId) {s : σ}
    (hs : n.value? i = some s) : ∃ t ∈ m.sources, t.value = s ∧
      ∃ b, p.branch? i = some b ∧ (Branch.ofState c.config n t).result = .ok b := by
  obtain ⟨hvalues, branches, rfl, hbranches⟩ := plan_eq_ok h
  rw [Numbering.value?, hvalues, Model.labels] at hs
  rw [Plan.branch?]
  cases hi' : i.toNat with
  | zero => exact absurd (UInt32.toNat_inj.mp hi') hi
  | succ j =>
    rw [hi', List.getElem?_cons_succ, List.getElem?_map, Option.map_eq_some_iff] at hs
    obtain ⟨t, ht, rfl⟩ := hs
    obtain ⟨hj, rfl⟩ := List.getElem?_eq_some_iff.mp ht
    have hlt : j < branches.length := hbranches.length_eq ▸ hj
    refine ⟨m.sources[j], List.getElem_mem hj, rfl, branches[j], ?_, hbranches.get hj hlt⟩
    rw [List.getElem?_cons_succ, List.getElem?_eq_getElem hlt]

lemma id?_exit_of_plan (h : (c.plan m).result = .ok (n, p)) : n.id? m.exit = some exitId := by
  rw [Numbering.id?, (plan_eq_ok h).1, Model.labels, List.idxOf?_cons]
  simp [exitId]

/-- From the number of a label, a plan leads to the number of the next label. -/
lemma id?_next_of_plan (h : (c.plan m).result = .ok (n, p)) (hm : m.Valid)
    (hsize : m.stateCount ≤ UInt32.size) {i : StateId} {s : σ} (hs : n.value? i = some s)
    (x : Symbol k) : n.id? (m.next s x) = some (p.transit i x) := by
  have hexit := id?_exit_of_plan h
  by_cases hi : i = exitId
  · -- the exit, which is no source
    have hn : n.size ≤ UInt32.size := by rw [size_of_plan h]; exact hsize
    obtain rfl : m.exit = s := by
      have hvalue := (Numbering.id?_eq_some_iff hn).mp hexit
      rw [← hi, hs] at hvalue
      exact (Option.some.inj hvalue).symm
    rw [Model.next_of_not_source hm.exit_not_source, hexit, hi]
    obtain ⟨-, branches, rfl, -⟩ := plan_eq_ok h
    rfl
  · obtain ⟨t, ht, rfl, b, hb, hstate⟩ := branch?_of_plan h hi hs
    rw [hm.next_eq ht, Plan.transit, hb]
    exact Branch.id?_next_of_ofState hstate (hm.unambiguous t ht) hexit x

/-- A plan routes the numbers of its states as the model routes their labels. -/
lemma routedBy_of_plan (h : (c.plan m).result = .ok (n, p)) (hm : m.Valid)
    (hsize : m.stateCount ≤ UInt32.size) : m.RoutedBy n p.transit := by
  have hn : n.size ≤ UInt32.size := by rw [size_of_plan h]; exact hsize
  intro s hs
  obtain ⟨i, hi⟩ := Numbering.exists_id? (n := n) (s := s) (by rwa [(plan_eq_ok h).1])
  refine ⟨i, hi, fun x => ?_⟩
  exact Numbering.resolve_of_id? hn
    (id?_next_of_plan h hm hsize ((Numbering.id?_eq_some_iff hn).mp hi) x)

/-- Numbers of no state lead to the exit. -/
lemma transit_of_stateCount_le (h : (c.plan m).result = .ok (n, p)) {i : StateId}
    (hi : m.stateCount ≤ i.toNat) (x : Symbol k) : p.transit i x = exitId := by
  rw [← length_branches_of_plan h] at hi
  rw [Plan.transit, Plan.branch?, List.getElem?_eq_none hi]

/-- Compilation preserves meaning. Whatever the span and the strategy, a plan leads from the number
of a label to the number of the next one, and numbers of no state lead to the exit; so any two
plans of a model route numbers alike. -/
theorem plan_preserves_next (hm : m.Built) (hsize : m.stateCount < UInt32.size)
    (h : (c.plan m).result = .ok (n, p)) :
    m.RoutedBy n p.transit ∧
      (∀ i : StateId, m.stateCount ≤ i.toNat → ∀ x, p.transit i x = exitId) ∧
      ∀ (c' : Compiler) (n' : Numbering σ) (p' : Plan k), (c'.plan m).result = .ok (n', p') →
        n' = n ∧ ∀ i x, p'.transit i x = p.transit i x := by
  refine ⟨routedBy_of_plan h hm.valid hsize.le, fun i hi => transit_of_stateCount_le h hi, ?_⟩
  intro c' n' p' h'
  obtain rfl : n' = n := Numbering.ext ((plan_eq_ok h').1.trans (plan_eq_ok h).1.symm)
  refine ⟨rfl, fun i x => ?_⟩
  cases hs : n'.value? i with
  | some s =>
    have hid := id?_next_of_plan h hm.valid hsize.le hs x
    have hid' := id?_next_of_plan h' hm.valid hsize.le hs x
    exact Option.some_inj.mp (hid'.symm.trans hid)
  | none =>
    have hi : m.stateCount ≤ i.toNat := by
      rw [← size_of_plan h]
      exact List.getElem?_eq_none_iff.mp hs
    rw [transit_of_stateCount_le h hi, transit_of_stateCount_le h' hi]

/-- A sparse plan of a model in which symbols share a hash. -/
theorem plan_preserves_next_colliding :
    collidingModel.Built ∧ collidingModel.stateCount < UInt32.size ∧
      ∃ n p, (plan ⟨⟨10, .sparse, Kind.all⟩, none⟩ collidingModel).result = .ok (n, p) ∧
        collidingModel.RoutedBy n p.transit ∧
        (∀ i : StateId, 4 ≤ i.toNat → ∀ x, p.transit i x = exitId) ∧
        ∀ n' p', (plan ⟨⟨10, .dense, Kind.all⟩, none⟩ collidingModel).result = .ok (n', p') →
          n' = n ∧ ∀ i x, p'.transit i x = p.transit i x := by
  have hsize : collidingModel.stateCount < UInt32.size := by decide
  obtain ⟨⟨n, p⟩, h⟩ : ∃ r, (plan ⟨⟨10, .sparse, Kind.all⟩, none⟩ collidingModel).result = .ok r :=
    ⟨_, rfl⟩
  obtain ⟨hroute, hbeyond, hplans⟩ := plan_preserves_next collidingModel_built hsize h
  exact ⟨collidingModel_built, hsize, n, p, h, hroute, hbeyond, hplans _⟩

end Compiler

end

end StateMachine
