import StateMachine.Proofs.Reachability

/-!
# What a build accepts

A draft is acceptable if both ends are set, every guard means something, no symbol is torn between
two edges of a source, and every declared state can be reached or need not be. All of this is said
of symbols and paths, and nothing of hashes, buckets and rounds; a build succeeds exactly on the
acceptable drafts, and the model that comes out of it has the parts and edges of the draft, in
order.
-/

namespace StateMachine

variable {σ : Type} {k : Kind}

/-! ### Guards -/

/-- One symbol for each class of symbols that are the same. -/
structure Represents (ws vs : List (Symbol k)) : Prop where
  subset : ∀ w ∈ ws, w ∈ vs
  covers : ∀ v ∈ vs, ∃ w ∈ ws, w.same v = true
  pairwise : ws.Pairwise fun w w' => w.same w' = false

lemma represents_distinct (vs : List (Symbol k)) : Represents (distinct vs) vs := by
  induction vs using List.reverseRecOn with
  | nil => exact ⟨by simp [distinct], by simp, by simp [distinct]⟩
  | append_singleton vs v ih =>
    have hstep : distinct (vs ++ [v])
        = if (distinct vs).any (·.same v) then distinct vs else distinct vs ++ [v] := by
      simp [distinct, List.foldl_append]
    rw [hstep]
    split_ifs with hany
    · refine ⟨fun w hw => List.mem_append_left _ (ih.subset w hw), ?_, ih.pairwise⟩
      refine List.forall_mem_append.mpr ⟨ih.covers, List.forall_mem_singleton.mpr ?_⟩
      exact List.any_eq_true.mp hany
    · constructor
      · intro w hw
        rcases List.mem_append.mp hw with hw | hw
        · exact List.mem_append_left _ (ih.subset w hw)
        · exact List.mem_append_right _ hw
      · intro u hu
        rcases List.mem_append.mp hu with hu | hu
        · obtain ⟨w, hw, hsame⟩ := ih.covers u hu
          exact ⟨w, List.mem_append_left _ hw, hsame⟩
        · obtain rfl := List.mem_singleton.mp hu
          exact ⟨u, by simp, Symbol.same_refl u⟩
      · refine List.pairwise_append.mpr ⟨ih.pairwise, List.pairwise_singleton _ _, ?_⟩
        intro w hw u hu
        obtain rfl := List.mem_singleton.mp hu
        by_contra hsame
        exact hany (List.any_eq_true.mpr ⟨w, hw, by simpa using hsame⟩)

lemma Represents.exists_same_iff {ws vs : List (Symbol k)} (h : Represents ws vs) (x : Symbol k) :
    (∃ w ∈ ws, w.same x = true) ↔ ∃ v ∈ vs, v.same x = true := by
  constructor
  · rintro ⟨w, hw, hx⟩
    exact ⟨w, h.subset w hw, hx⟩
  · rintro ⟨v, hv, hx⟩
    obtain ⟨w, hw, hsame⟩ := h.covers v hv
    exact ⟨w, hw, Symbol.same_trans hsame hx⟩

lemma Guard.isRange_ofValues (vs : List (Symbol k)) : (ofValues vs).isRange = false := by
  rw [ofValues]
  split <;> rfl

/-- Symbols that are left out are the same as one that is kept. -/
lemma Guard.accepts_ofValues {vs : List (Symbol k)} {x : Symbol k} :
    (ofValues vs).accepts x = true ↔ ∃ v ∈ vs, v.same x = true := by
  rw [← (represents_distinct vs).exists_same_iff, ofValues]
  split
  · next v hv => simp [accepts, hv]
  · simp [accepts]

/-- There are two distinct symbols exactly if there are two that are not the same. -/
lemma two_le_length_distinct_iff {vs : List (Symbol k)} :
    2 ≤ (distinct vs).length ↔ ∃ v ∈ vs, ∃ w ∈ vs, v.same w = false := by
  have hrep := represents_distinct vs
  constructor
  · intro hlen
    match hws : distinct vs, hlen with
    | a :: b :: ws, _ =>
      rw [hws] at hrep
      have hpair := (List.pairwise_cons.mp hrep.pairwise).1 b (by simp)
      exact ⟨a, hrep.subset a (by simp), b, hrep.subset b (by simp), hpair⟩
  · rintro ⟨v, hv, w, hw, hne⟩
    obtain ⟨a, ha, hav⟩ := hrep.covers v hv
    obtain ⟨b, hb, hbw⟩ := hrep.covers w hw
    by_contra hlen
    -- one symbol alone would be the same as both
    obtain ⟨c, hc⟩ : ∃ c, distinct vs = [c] := by
      refine List.length_eq_one_iff.mp ?_
      have hpos := List.length_pos_of_mem ha
      omega
    rw [hc, List.mem_singleton] at ha hb
    subst ha hb
    rw [Symbol.same_trans (Symbol.same_symm hav) hbw] at hne
    cases hne

/-- A set needs two symbols that are not the same, and a range an order and a start before its
end. -/
def Guard.WellFormed : Guard k → Prop
  | .single _ => True
  | .set vs => ∃ v ∈ vs, ∃ w ∈ vs, v.same w = false
  | .range a b => k.isOrderable = true ∧ a.order? b = some .lt

lemma Guard.fault?_eq_none_iff_wellFormed {g : Guard k} : g.fault? = none ↔ g.WellFormed := by
  cases g with
  | single v => simp [fault?, WellFormed]
  | set vs =>
    rw [WellFormed, ← two_le_length_distinct_iff, fault?]
    split_ifs with hlen
    · exact iff_of_false (by simp) (by omega)
    · exact iff_of_true rfl (by omega)
  | range a b =>
    rw [WellFormed, fault?]
    split_ifs with hk hlt
    · simp only [Bool.not_eq_true'] at hk
      simp [hk]
    · simp only [Bool.not_eq_true', Bool.not_eq_false] at hk
      simp [hk, hlt]
    · simp [hlt]

/-! ### Sources -/

/-- Edges of one source that a machine can follow. -/
structure Edges.Acceptable (e : Edges σ k) : Prop where
  /-- There is at most one edge to fall back on. -/
  unconditional : e.unconditional.length ≤ 1
  /-- Every guard is well formed. -/
  wellFormed : ∀ c ∈ e.conditional, c.guard.WellFormed
  /-- No symbol is matched by explicit guards to different targets. -/
  explicit : ∀ c ∈ e.conditional, ∀ c' ∈ e.conditional, c.guard.isRange = false →
    c'.guard.isRange = false → ∀ x, c.guard.accepts x = true → c'.guard.accepts x = true →
      c.target = c'.target
  /-- No symbol is matched by two ranges. -/
  ranges : e.conditional.Pairwise fun c c' => c.guard.isRange = true → c'.guard.isRange = true →
    ∀ x, ¬ (c.guard.accepts x = true ∧ c'.guard.accepts x = true)

lemma Edges.fault?_eq_none_iff_acceptable [DecidableEq σ] [Label σ] {e : Edges σ k} {source : σ} :
    e.fault? source = none ↔ e.Acceptable := by
  have hranges : ∀ c c' : Edge σ k, c.Disjoint c' ↔ (c.guard.isRange = true →
      c'.guard.isRange = true → ∀ x, ¬ (c.guard.accepts x = true ∧ c'.guard.accepts x = true)) := by
    simp [Edge.Disjoint]
  have hwf : ∀ c : Edge σ k, c.guard.fault? = none ↔ c.guard.WellFormed :=
    fun _ => Guard.fault?_eq_none_iff_wellFormed
  rw [fault?_eq_none_iff]
  constructor
  · rintro ⟨hlen, hcond⟩
    refine ⟨hlen, fun c hc => (hwf c).mp (hcond.wellFormed c hc), hcond.explicit, ?_⟩
    exact hcond.disjoint.imp fun {c c'} => (hranges c c').mp
  · intro h
    refine ⟨h.unconditional, fun c hc => (hwf c).mpr (h.wellFormed c hc), h.explicit, ?_⟩
    exact h.ranges.imp fun {c c'} => (hranges c c').mpr

/-! ### Drafts -/

namespace Draft

variable [DecidableEq σ]

/-- What a build asks of a draft. -/
structure Acceptable (d : Draft σ k) : Prop where
  init_isSome : d.init.isSome = true
  exit_isSome : d.exit.isSome = true
  /-- The edges of every source can be followed. -/
  edges : ∀ s e, d.IsSource s → d.edges.find? s = some e → e.Acceptable
  /-- There is a path of edges to every declared state, if that matters. -/
  reachable : d.allowUnreachable = true ∨
    ∀ start, d.init = some start → ∀ s ∈ d.states, d.Reachable start s

/-- The model has the ends, the declared states and the edges of the draft, in the same order. -/
structure Yields (d : Draft σ k) (m : Model σ k) : Prop where
  init : d.init = some m.init.value
  exit : d.exit = some m.exit
  states : d.states = m.states.map State.value
  edges : ∀ s ∈ m.sources, d.edges.find? s.value = some ⟨s.conditional, s.fallback.toList⟩

variable {d : Draft σ k}

/-- A source with at most one unconditional edge loses nothing when it is frozen. -/
lemma Consistent.find?_freeze (hd : d.Consistent) {s : σ} (hs : d.IsSource s)
    (hlen : ∀ e, d.edges.find? s = some e → e.unconditional.length ≤ 1) :
    d.edges.find? (d.freeze s).value
      = some ⟨(d.freeze s).conditional, (d.freeze s).fallback.toList⟩ := by
  obtain ⟨e, he⟩ := Option.isSome_iff_exists.mp ((hd.isSome_find?_iff s).mpr hs)
  have htoList : e.unconditional.head?.toList = e.unconditional := by
    match hu : e.unconditional, hlen e he with
    | [], _ => rfl
    | [u], _ => rfl
  simp only [freeze, he, htoList]

variable [Label σ]

/-- The draft is acceptable, and its model is the one that comes out. -/
lemma Consistent.build_eq_ok_iff_acceptable (hd : d.Consistent) {m : Model σ k} :
    d.build.result = .ok m ↔ d.Acceptable ∧ ∃ start exit, d.init = some start ∧
      d.exit = some exit ∧ m = ⟨d.freeze start, exit, d.states.map d.freeze⟩ := by
  rw [build_eq_ok_iff]
  constructor
  · rintro ⟨start, exit, hinit, hexit, -, hfault, hreach, rfl⟩
    refine ⟨⟨by simp [hinit], by simp [hexit], ?_, ?_⟩, start, exit, hinit, hexit, rfl⟩
    · intro s e hs he
      exact Edges.fault?_eq_none_iff_acceptable.mp (hfault s e hs he)
    · refine ((hd.checkReachability_eq_ok_iff hinit).mp hreach).imp_right fun h start' hstart => ?_
      obtain rfl : start = start' := Option.some.inj (hinit.symm.trans hstart)
      exact h
  · rintro ⟨hok, start, exit, hinit, hexit, rfl⟩
    refine ⟨start, exit, hinit, hexit, ?_, ?_, ?_, rfl⟩
    · -- a consistent draft never has one state at both ends
      rintro rfl
      exact init_ne_of_isTarget hd.roles_nodup (Or.inl hexit) hinit
    · intro s e hs he
      exact Edges.fault?_eq_none_iff_acceptable.mpr (hok.edges s e hs he)
    · exact (hd.checkReachability_eq_ok_iff hinit).mpr
        (hok.reachable.imp_right fun h => h start hinit)

lemma Consistent.yields_of_build (hd : d.Consistent) {m : Model σ k}
    (h : d.build.result = .ok m) : d.Yields m := by
  obtain ⟨hok, start, exit, hinit, hexit, rfl⟩ := hd.build_eq_ok_iff_acceptable.mp h
  have hfreeze : ∀ s, d.IsSource s → d.edges.find? (d.freeze s).value
      = some ⟨(d.freeze s).conditional, (d.freeze s).fallback.toList⟩ :=
    fun s hs => hd.find?_freeze hs fun e he => (hok.edges s e hs he).unconditional
  refine ⟨by simpa using hinit, hexit, by simp [Function.comp_def], ?_⟩
  refine List.forall_mem_cons.mpr ⟨hfreeze start (Or.inl hinit), List.forall_mem_map.mpr ?_⟩
  intro s hs
  exact hfreeze s (Or.inr hs)

/-- A build accepts exactly the valid drafts. After any commands it succeeds if and only if the
draft is acceptable; then the model has the parts and edges of the draft, and an empty draft is
left behind; otherwise the draft stays as it was. -/
theorem build_accepts_exactly (cs : List (Command σ k)) :
    ((∃ m, (after cs).build.result = .ok m) ↔ (after cs).Acceptable) ∧
      (∀ m, (after cs).build.result = .ok m →
        (after cs).Yields m ∧ (after cs).afterBuild = .empty) ∧
      ∀ refused, (after cs).build.result = .error refused → (after cs).afterBuild = after cs := by
  have hd := consistent_after cs
  refine ⟨⟨?_, fun hok => ?_⟩, fun m h => ⟨hd.yields_of_build h, ?_⟩,
    fun _ => afterBuild_of_error⟩
  · rintro ⟨m, h⟩
    exact (hd.build_eq_ok_iff_acceptable.mp h).1
  · obtain ⟨start, hstart⟩ := Option.isSome_iff_exists.mp hok.init_isSome
    obtain ⟨exit, hexit⟩ := Option.isSome_iff_exists.mp hok.exit_isSome
    exact ⟨_, hd.build_eq_ok_iff_acceptable.mpr ⟨hok, start, exit, hstart, hexit, rfl⟩⟩
  · rw [afterBuild, h]

end Draft

end StateMachine
