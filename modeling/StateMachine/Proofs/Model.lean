import Mathlib.Data.List.Nodup
import Mathlib.Data.List.Pairwise
import StateMachine.Model
import StateMachine.Proofs.Symbol

/-!
# Where symbols lead

Edges are unambiguous when every guard is well formed, explicit symbols have one target, and no
symbol lies in two ranges. For such edges `State.next` does not depend on their order: any edge
that takes part in the choice has the target that is chosen.
-/

namespace StateMachine

variable {σ τ : Type} {k : Kind}

/-! ### Guards -/

namespace Guard

lemma isRange_iff {g : Guard k} : g.isRange = true ↔ ∃ a b, g = .range a b := by
  cases g <;> simp [isRange]

/-- What guards can name, up to sameness. -/
inductive Named (k : Kind)
  | single (c : Quotient (Symbol.sameness k))
  | set (cs : Set (Quotient (Symbol.sameness k)))
  | range (start stop : Quotient (Symbol.sameness k))

def named : Guard k → Named k
  | single v => .single (Quotient.mk _ v)
  | set vs => .set (Symbol.classes vs)
  | range a b => .range (Quotient.mk _ a) (Quotient.mk _ b)

/-- Guards are equal exactly if they name the same in the same form. -/
lemma equiv_iff {g g' : Guard k} : g.equiv g' = true ↔ g.named = g'.named := by
  cases g with
  | single v => cases g' <;> simp [equiv, named, Symbol.mk_eq_mk_iff]
  | set vs => cases g' <;> simp [equiv, named, Symbol.classes_eq_iff]
  | range a b => cases g' <;> simp [equiv, named, Symbol.mk_eq_mk_iff]

lemma equiv_set_iff {vs ws : List (Symbol k)} :
    (set vs).equiv (set ws) = true ↔
      (∀ v ∈ vs, ∃ w ∈ ws, v.same w = true) ∧ ∀ w ∈ ws, ∃ v ∈ vs, v.same w = true := by
  simp [equiv]

/-- A guard that is no range accepts what is the same as one of its symbols. -/
lemma accepts_iff_of_explicit {g : Guard k} (hg : g.isRange = false) {x : Symbol k} :
    g.accepts x = true ↔ ∃ v ∈ g.values, v.same x = true := by
  cases g with
  | single v => simp [accepts, values]
  | set vs => simp [accepts, values]
  | range a b => simp [isRange] at hg

/-- Explicit guards do not tell symbols apart that are the same. -/
lemma accepts_congr_of_explicit {g : Guard k} (hg : g.isRange = false) {x y : Symbol k}
    (h : x.same y = true) : g.accepts x = true ↔ g.accepts y = true := by
  simp only [accepts_iff_of_explicit hg, Symbol.same_congr_right h]

lemma isOrderable_of_fault?_range {a b : Symbol k} (h : (Guard.range a b).fault? = none) :
    k.isOrderable = true := by
  rw [fault?] at h
  split_ifs at h with hk
  · simpa using hk

lemma order?_of_fault?_range {a b : Symbol k} (h : (Guard.range a b).fault? = none) :
    a.order? b = some .lt := by
  rw [fault?] at h
  split_ifs at h with hk hlt
  exact hlt

/-- A well-formed range contains its ends, and whatever is the same as one of them. -/
lemma range_accepts_ends {a b : Symbol k} (h : (Guard.range a b).fault? = none) {x : Symbol k}
    (hx : a.same x = true ∨ b.same x = true) : (Guard.range a b).accepts x = true := by
  obtain ⟨r⟩ := exists_ranking (isOrderable_of_fault?_range h)
  have hlt := (r.order?_eq_lt_iff a b).mp (order?_of_fault?_range h)
  rw [accepts, r.within_iff]
  rcases hx with hx | hx
  · rw [← (r.same_iff a x).mp hx]
    exact ⟨le_refl _, le_of_lt hlt⟩
  · rw [← (r.same_iff b x).mp hx]
    exact ⟨le_of_lt hlt, le_refl _⟩

lemma isRange_eq_of_equiv {g g' : Guard k} (h : g.equiv g' = true) : g.isRange = g'.isRange := by
  cases g <;> cases g' <;> simp_all [equiv, isRange]

/-- Guards that name the same symbols in the same form accept the same symbols. -/
lemma accepts_eq_of_equiv {g g' : Guard k} (h : g.equiv g' = true) (x : Symbol k) :
    g.accepts x = g'.accepts x := by
  cases g with
  | single v =>
    cases g' with
    | single w => exact Symbol.same_congr_left h x
    | set ws => cases h
    | range c d => cases h
  | set vs =>
    cases g' with
    | single w => cases h
    | set ws =>
      have hclasses : Symbol.classes vs = Symbol.classes ws := by
        simpa [named] using equiv_iff.mp h
      rw [Bool.eq_iff_iff]
      simp only [accepts, List.any_eq_true, ← Symbol.mk_mem_classes, hclasses]
    | range c d => cases h
  | range a b =>
    cases g' with
    | single w => cases h
    | set ws => cases h
    | range c d =>
      simp only [equiv, Bool.and_eq_true] at h
      exact Symbol.within_congr (Symbol.same_refl x) h.1 h.2

end Guard

/-! ### Edges -/

/-- No symbol lies in the ranges of both edges. -/
def Edge.Disjoint (e e' : Edge σ k) : Prop :=
  e.guard.isRange = true → e'.guard.isRange = true →
    ∀ x, e.guard.accepts x = true → e'.guard.accepts x = false

instance : Std.Symm (@Edge.Disjoint σ k) where
  symm e e' h hr hr' x hx := by
    by_contra hc
    rw [h hr' hr x (by simpa using hc)] at hx
    cases hx

/-- Edges among which a symbol chooses at most one target. -/
structure Unambiguous (es : List (Edge σ k)) : Prop where
  /-- Every guard is well formed. -/
  wellFormed : ∀ e ∈ es, e.guard.fault? = none
  /-- Explicit guards that accept a symbol have one target. -/
  explicit : ∀ e ∈ es, ∀ e' ∈ es, e.guard.isRange = false → e'.guard.isRange = false →
    ∀ x, e.guard.accepts x = true → e'.guard.accepts x = true → e.target = e'.target
  /-- No symbol lies in two ranges. -/
  disjoint : es.Pairwise Edge.Disjoint

/-- Two ranges with a symbol in common are one and the same edge. -/
lemma Unambiguous.eq_of_ranges {es : List (Edge σ k)} (h : Unambiguous es) {e e' : Edge σ k}
    (he : e ∈ es) (he' : e' ∈ es) (hr : e.guard.isRange = true) (hr' : e'.guard.isRange = true)
    {x : Symbol k} (hx : e.guard.accepts x = true) (hx' : e'.guard.accepts x = true) : e = e' := by
  by_contra hne
  have hfalse := h.disjoint.forall he he' hne hr hr' x hx
  rw [hx'] at hfalse
  cases hfalse

/-- Another name for the targets keeps edges unambiguous. -/
lemma Unambiguous.map {es : List (Edge σ k)} (h : Unambiguous es) (f : σ → τ) :
    Unambiguous (es.map fun e => (⟨f e.target, e.guard⟩ : Edge τ k)) where
  wellFormed := by simpa using h.wellFormed
  explicit := by
    simp only [List.forall_mem_map]
    intro e he e' he' hr hr' x hx hx'
    exact congrArg f (h.explicit e he e' he' hr hr' x hx hx')
  disjoint := List.pairwise_map.mpr h.disjoint

namespace State

variable {s : State σ k} {exit : σ} {x : Symbol k} {e : Edge σ k}

/-- An explicit edge that accepts a symbol says where it leads. -/
lemma next_of_explicit (hs : Unambiguous s.conditional) (he : e ∈ s.conditional)
    (hr : e.guard.isRange = false) (hx : e.guard.accepts x = true) : s.next exit x = e.target := by
  have hsome : (s.conditional.find? fun e => !e.guard.isRange && e.guard.accepts x).isSome := by
    exact List.find?_isSome.mpr ⟨e, he, by simp [hr, hx]⟩
  obtain ⟨e', he'⟩ := Option.isSome_iff_exists.mp hsome
  have hp := List.find?_some he'
  simp only [Bool.and_eq_true, Bool.not_eq_true'] at hp
  rw [next, he']
  exact hs.explicit e' (List.mem_of_find?_eq_some he') e he hp.1 hr x hp.2 hx

/-- A range that contains a symbol says where it leads, if no explicit edge does. -/
lemma next_of_range (hs : Unambiguous s.conditional)
    (hno : ∀ e ∈ s.conditional, e.guard.isRange = false → e.guard.accepts x = false)
    (he : e ∈ s.conditional) (hr : e.guard.isRange = true) (hx : e.guard.accepts x = true) :
    s.next exit x = e.target := by
  have hnone : (s.conditional.find? fun e => !e.guard.isRange && e.guard.accepts x) = none := by
    refine List.find?_eq_none.mpr fun e he h => ?_
    simp only [Bool.and_eq_true, Bool.not_eq_true'] at h
    rw [hno e he h.1] at h
    cases h.2
  have hsome : (s.conditional.find? fun e => e.guard.isRange && e.guard.accepts x).isSome := by
    exact List.find?_isSome.mpr ⟨e, he, by simp [hr, hx]⟩
  obtain ⟨e', he'⟩ := Option.isSome_iff_exists.mp hsome
  have hp := List.find?_some he'
  simp only [Bool.and_eq_true] at hp
  rw [next, hnone, he']
  exact congrArg Edge.target
    (hs.eq_of_ranges (List.mem_of_find?_eq_some he') he hp.1 hr hp.2 hx)

/-- A symbol that no edge accepts leads to the fallback, or else to the exit. -/
lemma next_of_none (hno : ∀ e ∈ s.conditional, e.guard.accepts x = false) :
    s.next exit x = s.fallback.getD exit := by
  have h₁ : (s.conditional.find? fun e => !e.guard.isRange && e.guard.accepts x) = none :=
    List.find?_eq_none.mpr fun e he h => by simp [hno e he] at h
  have h₂ : (s.conditional.find? fun e => e.guard.isRange && e.guard.accepts x) = none :=
    List.find?_eq_none.mpr fun e he h => by simp [hno e he] at h
  rw [next, h₁, h₂]

/-- A symbol leads to the target of an edge, to the fallback, or to the exit. -/
lemma next_cases (s : State σ k) (exit : σ) (x : Symbol k) :
    (∃ e ∈ s.conditional, s.next exit x = e.target) ∨ s.next exit x = s.fallback.getD exit := by
  rw [next]
  split
  · next e he => exact Or.inl ⟨e, List.mem_of_find?_eq_some he, rfl⟩
  · split
    · next e he => exact Or.inl ⟨e, List.mem_of_find?_eq_some he, rfl⟩
    · exact Or.inr rfl

end State

/-! ### States that agree -/

/-- Every edge is also among others, with the same target and a guard of the same symbols. -/
def Covered (es es' : List (Edge σ k)) : Prop :=
  ∀ e ∈ es, ∃ e' ∈ es', e.target = e'.target ∧ e.guard.equiv e'.guard = true

lemma Covered.exists_accepts {es es' : List (Edge σ k)} (h : Covered es es') {e : Edge σ k}
    (he : e ∈ es) : ∃ e' ∈ es', e'.target = e.target ∧ e'.guard.isRange = e.guard.isRange ∧
      ∀ x, e'.guard.accepts x = e.guard.accepts x := by
  obtain ⟨e', he', ht, hg⟩ := h e he
  exact ⟨e', he', ht.symm, (Guard.isRange_eq_of_equiv hg).symm,
    fun x => (Guard.accepts_eq_of_equiv hg x).symm⟩

namespace State

/-- States with the same label and the same transitions, in whatever order. -/
structure Agrees (s s' : State σ k) : Prop where
  value_eq : s.value = s'.value
  fallback_eq : s.fallback = s'.fallback
  covered : Covered s.conditional s'.conditional
  covers : Covered s'.conditional s.conditional

variable {s s' : State σ k}

lemma Agrees.symm (h : s.Agrees s') : s'.Agrees s :=
  ⟨h.value_eq.symm, h.fallback_eq.symm, h.covers, h.covered⟩

/-- Symbols lead from states that agree to the same place. -/
lemma Agrees.next_eq (h : s.Agrees s') (hs : Unambiguous s.conditional)
    (hs' : Unambiguous s'.conditional) (exit : σ) (x : Symbol k) :
    s.next exit x = s'.next exit x := by
  -- the cases in which `next` decides: an explicit edge, else a range, else the fallback
  by_cases hexp : ∃ e ∈ s.conditional, e.guard.isRange = false ∧ e.guard.accepts x = true
  · obtain ⟨e, he, hr, hx⟩ := hexp
    obtain ⟨e', he', ht, hr', hx'⟩ := h.covered.exists_accepts he
    rw [next_of_explicit hs he hr hx, ← ht,
      next_of_explicit hs' he' (hr'.trans hr) ((hx' x).trans hx)]
  · have hno : ∀ e ∈ s.conditional, e.guard.isRange = false → e.guard.accepts x = false := by
      intro e he hr
      by_contra hc
      exact hexp ⟨e, he, hr, by simpa using hc⟩
    have hno' : ∀ e ∈ s'.conditional, e.guard.isRange = false → e.guard.accepts x = false := by
      intro e' he' hr
      obtain ⟨e, he, -, hr', hx'⟩ := h.covers.exists_accepts he'
      rw [← hx' x]
      exact hno e he (hr'.trans hr)
    by_cases hrange : ∃ e ∈ s.conditional, e.guard.isRange = true ∧ e.guard.accepts x = true
    · obtain ⟨e, he, hr, hx⟩ := hrange
      obtain ⟨e', he', ht, hr', hx'⟩ := h.covered.exists_accepts he
      rw [next_of_range hs hno he hr hx, ← ht,
        next_of_range hs' hno' he' (hr'.trans hr) ((hx' x).trans hx)]
    · have hnone : ∀ e ∈ s.conditional, e.guard.accepts x = false := by
        intro e he
        by_contra hc
        have hx : e.guard.accepts x = true := by simpa using hc
        cases hr : e.guard.isRange with
        | false => exact hexp ⟨e, he, hr, hx⟩
        | true => exact hrange ⟨e, he, hr, hx⟩
      have hnone' : ∀ e ∈ s'.conditional, e.guard.accepts x = false := by
        intro e' he'
        obtain ⟨e, he, -, -, hx'⟩ := h.covers.exists_accepts he'
        rw [← hx' x]
        exact hnone e he
      rw [next_of_none hnone, next_of_none hnone', h.fallback_eq]

end State

/-! ### Models -/

namespace Model

variable [DecidableEq σ] {m : Model σ k}

/-- What a built model satisfies: no label names two states, and all edges are unambiguous. -/
structure Valid (m : Model σ k) : Prop where
  exit_not_source : m.exit ∉ m.sources.map State.value
  nodup : (m.sources.map State.value).Nodup
  unambiguous : ∀ s ∈ m.sources, Unambiguous s.conditional

/-- A source is the state with its label. -/
lemma Valid.state?_eq (hm : m.Valid) {s : State σ k} (hs : s ∈ m.sources) :
    m.state? s.value = some s := by
  have hsome : (m.sources.find? fun t => t.value = s.value).isSome :=
    List.find?_isSome.mpr ⟨s, hs, by simp⟩
  obtain ⟨t, ht⟩ := Option.isSome_iff_exists.mp hsome
  have hval : t.value = s.value := by simpa using List.find?_some ht
  rw [state?, ht, List.inj_on_of_nodup_map hm.nodup (List.mem_of_find?_eq_some ht) hs hval]

lemma Valid.next_eq (hm : m.Valid) {s : State σ k} (hs : s ∈ m.sources) (x : Symbol k) :
    m.next s.value x = s.next m.exit x := by
  rw [next, hm.state?_eq hs]

/-- Labels of no source lead to the exit. -/
lemma next_of_not_source {s : σ} (hs : s ∉ m.sources.map State.value) (x : Symbol k) :
    m.next s x = m.exit := by
  have hnone : m.state? s = none :=
    List.find?_eq_none.mpr fun t ht h => hs (List.mem_map.mpr ⟨t, ht, by simpa using h⟩)
  rw [next, hnone]

/-- Models with the same ends and states that agree, in whatever order. -/
structure Agrees (m m' : Model σ k) : Prop where
  exit_eq : m.exit = m'.exit
  init : m.init.Agrees m'.init
  states : ∀ s ∈ m.states, ∃ s' ∈ m'.states, s.Agrees s'
  states_symm : ∀ s' ∈ m'.states, ∃ s ∈ m.states, s'.Agrees s

namespace Agrees

variable {m' : Model σ k}

omit [DecidableEq σ] in
lemma symm (h : m.Agrees m') : m'.Agrees m :=
  ⟨h.exit_eq.symm, h.init.symm, h.states_symm, h.states⟩

omit [DecidableEq σ] in
lemma exists_source (h : m.Agrees m') {s : State σ k} (hs : s ∈ m.sources) :
    ∃ s' ∈ m'.sources, s.Agrees s' := by
  rcases List.mem_cons.mp hs with rfl | hs
  · exact ⟨m'.init, by simp [sources], h.init⟩
  · obtain ⟨s', hs', hagree⟩ := h.states s hs
    exact ⟨s', List.mem_cons_of_mem _ hs', hagree⟩

omit [DecidableEq σ] in
lemma mem_source_values (h : m.Agrees m') {v : σ} (hv : v ∈ m.sources.map State.value) :
    v ∈ m'.sources.map State.value := by
  obtain ⟨s, hs, rfl⟩ := List.mem_map.mp hv
  obtain ⟨s', hs', hagree⟩ := h.exists_source hs
  exact List.mem_map.mpr ⟨s', hs', hagree.value_eq.symm⟩

omit [DecidableEq σ] in
/-- The states with one label agree. -/
lemma sources (h : m.Agrees m') (hm' : (m'.sources.map State.value).Nodup) {s s' : State σ k}
    (hs : s ∈ m.sources) (hs' : s' ∈ m'.sources) (heq : s.value = s'.value) : s.Agrees s' := by
  obtain ⟨t, ht, hagree⟩ := h.exists_source hs
  obtain rfl := List.inj_on_of_nodup_map hm' ht hs' (hagree.value_eq.symm.trans heq)
  exact hagree

/-- Models that agree lead every symbol to the same place. -/
lemma next_eq (h : m.Agrees m') (hm : m.Valid) (hm' : m'.Valid) (v : σ) (x : Symbol k) :
    m.next v x = m'.next v x := by
  by_cases hv : v ∈ m.sources.map State.value
  · obtain ⟨s, hs, rfl⟩ := List.mem_map.mp hv
    obtain ⟨s', hs', hagree⟩ := h.exists_source hs
    rw [hm.next_eq hs, hagree.value_eq, hm'.next_eq hs', h.exit_eq]
    exact hagree.next_eq (hm.unambiguous s hs) (hm'.unambiguous s' hs') m'.exit x
  · have hv' : v ∉ m'.sources.map State.value := fun hc => hv (h.symm.mem_source_values hc)
    rw [next_of_not_source hv, next_of_not_source hv', h.exit_eq]

end Agrees

end Model

end StateMachine
