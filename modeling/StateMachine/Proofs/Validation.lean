import StateMachine.Build
import StateMachine.Proofs.Model

/-!
# What a build checks

Ranges that share a symbol overlap at one of their starts, and explicit symbols are claimed for
their targets one by one, in buckets by hash. Since sameness respects the hash, no claim is missed;
so edges have no fault exactly if they are unambiguous.
-/

namespace StateMachine

variable {σ : Type} {k : Kind}

/-! ### Ranges -/

/-- Ranges with a symbol in common overlap. -/
lemma overlap_of_within {a b c d x : Symbol k} (hk : k.isOrderable = true)
    (hab : x.within a b = true) (hcd : x.within c d = true) : overlap (a, b) (c, d) = true := by
  obtain ⟨r⟩ := exists_ranking hk
  rw [r.within_iff] at hab hcd
  rw [overlap, Bool.or_eq_true, r.within_iff, r.within_iff]
  rcases le_total (r.rank a) (r.rank c) with hac | hca
  · exact Or.inr ⟨hac, hcd.1.trans hab.2⟩
  · exact Or.inl ⟨hca, hab.1.trans hcd.2⟩

/-- Well-formed ranges overlap exactly if they have a symbol in common. -/
lemma overlap_iff {a b c d : Symbol k} (hab : (Guard.range a b).fault? = none)
    (hcd : (Guard.range c d).fault? = none) :
    overlap (a, b) (c, d) = true ↔ ∃ x : Symbol k, x.within a b = true ∧ x.within c d = true := by
  constructor
  · intro h
    rw [overlap, Bool.or_eq_true] at h
    rcases h with h | h
    · exact ⟨a, Guard.range_accepts_ends hab (Or.inl (Symbol.same_refl a)), h⟩
    · exact ⟨c, h, Guard.range_accepts_ends hcd (Or.inl (Symbol.same_refl c))⟩
  · rintro ⟨x, hx, hx'⟩
    exact overlap_of_within (Guard.isOrderable_of_fault?_range hab) hx hx'

/-! ### Claims -/

namespace Claims

variable {c c' : Claims σ k}

/-- A symbol was claimed for a target. -/
def Has (c : Claims σ k) (v : Symbol k) (t : σ) : Prop := (v, t) ∈ c.bucket v.hash

@[simp] lemma not_has_empty (v : Symbol k) (t : σ) : ¬ (empty : Claims σ k).Has v t := by
  simp [Has, bucket, empty]

lemma bucket_take (c : Claims σ k) (v : Symbol k) (t : σ) (h : Int32) :
    (c.take v t).bucket h = if h = v.hash then c.bucket h ++ [(v, t)] else c.bucket h := by
  by_cases hh : h = v.hash
  · simp [bucket, take, hh]
  · simp [bucket, take, hh]

@[simp] lemma has_take {v w : Symbol k} {t u : σ} :
    (c.take v t).Has w u ↔ c.Has w u ∨ w = v ∧ u = t := by
  rw [Has, bucket_take]
  split_ifs with h
  · simp [Has]
  · have hne : w ≠ v := fun heq => h (congrArg Symbol.hash heq)
    simp [Has, hne]

@[simp] lemma has_takeRange {a b w : Symbol k} {u : σ} :
    (c.takeRange a b).Has w u ↔ c.Has w u := Iff.rfl

/-- Symbols can be claimed for a target if none of them was claimed for another one. -/
def Open (c : Claims σ k) (t : σ) (vs : List (Symbol k)) : Prop :=
  ∀ v ∈ vs, ∀ w u, c.Has w u → w.same v = true → u = t

lemma open_take_iff {v : Symbol k} {t : σ} {vs : List (Symbol k)} :
    (c.take v t).Open t vs ↔ c.Open t vs := by
  refine forall₂_congr fun w _ => forall₂_congr fun w' u => ?_
  rw [has_take]
  constructor
  · exact fun h hhas => h (Or.inl hhas)
  · rintro h (hhas | ⟨-, rfl⟩)
    · exact h hhas
    · exact fun _ => rfl

/-- What edges have to leave to earlier ones. -/
structure Respected (c : Claims σ k) (es : List (Edge σ k)) : Prop where
  explicit : ∀ w u, c.Has w u → ∀ e ∈ es, e.guard.isRange = false →
    e.guard.accepts w = true → u = e.target
  ranges : ∀ r ∈ c.ranges, ∀ e ∈ es, e.guard.isRange = true →
    ∀ x : Symbol k, x.within r.1 r.2 = true → e.guard.accepts x = false

lemma respected_nil : c.Respected [] := ⟨by simp, by simp⟩

lemma respected_empty (es : List (Edge σ k)) : (empty : Claims σ k).Respected es :=
  ⟨by simp, by simp [empty]⟩

variable {e : Edge σ k} {es : List (Edge σ k)}

lemma respected_cons : c.Respected (e :: es) ↔ c.Respected [e] ∧ c.Respected es := by
  constructor
  · intro h
    refine ⟨⟨fun w u hhas => ?_, fun r hr => ?_⟩, ⟨fun w u hhas => ?_, fun r hr => ?_⟩⟩
    · exact List.forall_mem_singleton.mpr (List.forall_mem_cons.mp (h.explicit w u hhas)).1
    · exact List.forall_mem_singleton.mpr (List.forall_mem_cons.mp (h.ranges r hr)).1
    · exact (List.forall_mem_cons.mp (h.explicit w u hhas)).2
    · exact (List.forall_mem_cons.mp (h.ranges r hr)).2
  · rintro ⟨he, hes⟩
    refine ⟨fun w u hhas => ?_, fun r hr => ?_⟩
    · exact List.forall_mem_cons.mpr
        ⟨List.forall_mem_singleton.mp (he.explicit w u hhas), hes.explicit w u hhas⟩
    · exact List.forall_mem_cons.mpr
        ⟨List.forall_mem_singleton.mp (he.ranges r hr), hes.ranges r hr⟩

/-- A range leaves earlier symbols alone; it has to be disjoint from the earlier ranges. -/
lemma respected_range_iff {t : σ} {a b : Symbol k} (hwf : (Guard.range a b).fault? = none)
    (hc : ∀ r ∈ c.ranges, (Guard.range r.1 r.2).fault? = none) :
    c.Respected [⟨t, .range a b⟩] ↔ c.ranges.find? (overlap (a, b)) = none := by
  rw [List.find?_eq_none]
  constructor
  · intro h r hr hover
    obtain ⟨x, hx, hx'⟩ := (overlap_iff hwf (hc r hr)).mp hover
    have hfalse := h.ranges r hr _ (List.mem_singleton_self _) rfl x hx'
    simp [Guard.accepts, hx] at hfalse
  · intro h
    refine ⟨fun w u _ => List.forall_mem_singleton.mpr fun hr => by simp [Guard.isRange] at hr,
      fun r hr => List.forall_mem_singleton.mpr fun _ x hx => ?_⟩
    by_contra hacc
    exact h r hr ((overlap_iff hwf (hc r hr)).mpr ⟨x, by simpa [Guard.accepts] using hacc, hx⟩)

/-- An explicit edge leaves earlier ranges alone; its symbols have to be open. -/
lemma respected_explicit_iff (hr : e.guard.isRange = false) :
    c.Respected [e] ↔ c.Open e.target e.guard.values := by
  constructor
  · intro h v hv w u hhas hsame
    refine h.explicit w u hhas e (List.mem_singleton_self _) hr ?_
    exact (Guard.accepts_iff_of_explicit hr).mpr ⟨v, hv, Symbol.same_symm hsame⟩
  · intro h
    refine ⟨fun w u hhas => List.forall_mem_singleton.mpr fun _ hacc => ?_,
      fun r _ => List.forall_mem_singleton.mpr fun hr' => by simp [hr] at hr'⟩
    obtain ⟨v, hv, hsame⟩ := (Guard.accepts_iff_of_explicit hr).mp hacc
    exact h v hv w u hhas (Symbol.same_symm hsame)

/-- After a range was taken, the other edges have to be disjoint from it as well. -/
lemma respected_takeRange_iff {t : σ} {a b : Symbol k} :
    (c.takeRange a b).Respected es ↔
      c.Respected es ∧ ∀ e' ∈ es, (⟨t, .range a b⟩ : Edge σ k).Disjoint e' := by
  constructor
  · intro h
    refine ⟨⟨h.explicit, fun r hr => h.ranges r (List.mem_append_left _ hr)⟩, ?_⟩
    intro e' he' _ hr' x hx
    exact h.ranges (a, b) (List.mem_append_right _ (List.mem_singleton_self _)) e' he' hr' x hx
  · rintro ⟨h, hd⟩
    refine ⟨h.explicit, fun r hr e' he' hr' x hx => ?_⟩
    rcases List.mem_append.mp hr with hr | hr
    · exact h.ranges r hr e' he' hr' x hx
    · obtain rfl := List.mem_singleton.mp hr
      exact hd e' he' rfl hr' x hx

variable [DecidableEq σ]

/-- Looking into the bucket of a symbol is enough to find out whether it leads elsewhere. -/
lemma conflict_iff {v : Symbol k} {t : σ} :
    ((c.bucket v.hash).any fun p => p.1.same v && p.2 ≠ t) = true ↔
      ∃ w u, c.Has w u ∧ w.same v = true ∧ u ≠ t := by
  simp only [List.any_eq_true, Bool.and_eq_true, decide_eq_true_eq]
  constructor
  · rintro ⟨⟨w, u⟩, hmem, hsame, hne⟩
    exact ⟨w, u, by rwa [Has, Symbol.hash_eq_of_same hsame], hsame, hne⟩
  · rintro ⟨w, u, hhas, hsame, hne⟩
    exact ⟨(w, u), by rwa [← Symbol.hash_eq_of_same hsame], hsame, hne⟩

/-- Claiming succeeds exactly for open symbols. -/
lemma exists_claim_iff {t : σ} {vs : List (Symbol k)} :
    (∃ c', c.claim t vs = .ok c') ↔ c.Open t vs := by
  induction vs generalizing c with
  | nil => simp [claim, Open]
  | cons v vs ih =>
    have hcons : c.Open t (v :: vs) ↔
        (∀ w u, c.Has w u → w.same v = true → u = t) ∧ c.Open t vs := List.forall_mem_cons
    rw [claim, hcons]
    split_ifs with hany
    · obtain ⟨w, u, hhas, hsame, hne⟩ := conflict_iff.mp hany
      simp only [exists_false, false_iff]
      exact fun h => hne (h.1 w u hhas hsame)
    · rw [ih, open_take_iff]
      refine (and_iff_right_of_imp fun _ w u hhas hsame => ?_).symm
      by_contra hne
      exact hany (conflict_iff.mpr ⟨w, u, hhas, hsame, hne⟩)

/-- Claiming remembers the symbols and nothing else. -/
lemma claim_eq_ok {t : σ} {vs : List (Symbol k)} (h : c.claim t vs = .ok c') :
    c'.ranges = c.ranges ∧ ∀ w u, c'.Has w u ↔ c.Has w u ∨ w ∈ vs ∧ u = t := by
  induction vs generalizing c with
  | nil =>
    rw [claim] at h
    cases h
    simp
  | cons v vs ih =>
    rw [claim] at h
    split_ifs at h with hany
    obtain ⟨hranges, hhas⟩ := ih h
    refine ⟨hranges, fun w u => ?_⟩
    rw [hhas, has_take, List.mem_cons]
    tauto

/-- After symbols were claimed, the other edges have to have their target for them as well. -/
lemma respected_claim_iff (hr : e.guard.isRange = false)
    (h : c.claim e.target e.guard.values = .ok c') :
    c'.Respected es ↔ c.Respected es ∧ ∀ e' ∈ es, e'.guard.isRange = false →
      ∀ x, e.guard.accepts x = true → e'.guard.accepts x = true → e.target = e'.target := by
  obtain ⟨hranges, hhas⟩ := claim_eq_ok h
  constructor
  · intro hc'
    refine ⟨⟨fun w u hw => hc'.explicit w u ((hhas w u).mpr (Or.inl hw)), ?_⟩, ?_⟩
    · rw [← hranges]
      exact hc'.ranges
    · intro e' he' hr' x hx hx'
      obtain ⟨v, hv, hsame⟩ := (Guard.accepts_iff_of_explicit hr).mp hx
      exact hc'.explicit v e.target ((hhas v e.target).mpr (Or.inr ⟨hv, rfl⟩)) e' he' hr'
        ((Guard.accepts_congr_of_explicit hr' hsame).mpr hx')
  · rintro ⟨hc, htarget⟩
    refine ⟨fun w u hw e' he' hr' hacc => ?_, by rw [hranges]; exact hc.ranges⟩
    rcases (hhas w u).mp hw with hw | ⟨hmem, rfl⟩
    · exact hc.explicit w u hw e' he' hr' hacc
    · refine htarget e' he' hr' w ?_ hacc
      exact (Guard.accepts_iff_of_explicit hr).mpr ⟨w, hmem, Symbol.same_refl w⟩

end Claims

/-! ### Edges without a fault -/

lemma unambiguous_nil : Unambiguous ([] : List (Edge σ k)) := ⟨by simp, by simp, List.Pairwise.nil⟩

lemma Unambiguous.tail {e : Edge σ k} {es : List (Edge σ k)} (h : Unambiguous (e :: es)) :
    Unambiguous es where
  wellFormed e' he' := h.wellFormed e' (List.mem_cons_of_mem _ he')
  explicit e₁ h₁ e₂ h₂ := h.explicit e₁ (List.mem_cons_of_mem _ h₁) e₂ (List.mem_cons_of_mem _ h₂)
  disjoint := h.disjoint.of_cons

/-- A well-formed range can be added exactly if it is disjoint from the other ranges. -/
lemma unambiguous_cons_range_iff {e : Edge σ k} {es : List (Edge σ k)}
    (hwf : e.guard.fault? = none) (hr : e.guard.isRange = true) :
    Unambiguous (e :: es) ↔ Unambiguous es ∧ ∀ e' ∈ es, e.Disjoint e' := by
  refine ⟨fun h => ⟨h.tail, (List.pairwise_cons.mp h.disjoint).1⟩, fun ⟨hes, hd⟩ => ?_⟩
  refine ⟨List.forall_mem_cons.mpr ⟨hwf, hes.wellFormed⟩, ?_,
    List.pairwise_cons.mpr ⟨hd, hes.disjoint⟩⟩
  intro e₁ he₁ e₂ he₂ hr₁ hr₂
  rcases List.mem_cons.mp he₁ with rfl | he₁
  · simp [hr] at hr₁
  rcases List.mem_cons.mp he₂ with rfl | he₂
  · simp [hr] at hr₂
  exact hes.explicit e₁ he₁ e₂ he₂ hr₁ hr₂

/-- A well-formed explicit edge can be added exactly if the others have its target for its
symbols. -/
lemma unambiguous_cons_explicit_iff {e : Edge σ k} {es : List (Edge σ k)}
    (hwf : e.guard.fault? = none) (hr : e.guard.isRange = false) :
    Unambiguous (e :: es) ↔ Unambiguous es ∧ ∀ e' ∈ es, e'.guard.isRange = false →
      ∀ x, e.guard.accepts x = true → e'.guard.accepts x = true → e.target = e'.target := by
  constructor
  · refine fun h => ⟨h.tail, fun e' he' hr' => ?_⟩
    exact h.explicit e List.mem_cons_self e' (List.mem_cons_of_mem _ he') hr hr'
  · rintro ⟨hes, ht⟩
    refine ⟨List.forall_mem_cons.mpr ⟨hwf, hes.wellFormed⟩, ?_,
      List.pairwise_cons.mpr ⟨fun e' _ h => by simp [hr] at h, hes.disjoint⟩⟩
    intro e₁ he₁ e₂ he₂ hr₁ hr₂ x hx₁ hx₂
    rcases List.mem_cons.mp he₁ with rfl | h₁ <;> rcases List.mem_cons.mp he₂ with rfl | h₂
    · rfl
    · exact ht e₂ h₂ hr₂ x hx₁ hx₂
    · exact (ht e₁ h₁ hr₁ x hx₂ hx₁).symm
    · exact hes.explicit e₁ h₁ e₂ h₂ hr₁ hr₂ x hx₁ hx₂

section

variable [DecidableEq σ] [Label σ] {source : σ} {c : Claims σ k} {es : List (Edge σ k)}

lemma edgeFault?_cons_range {t : σ} {a b : Symbol k} (hwf : (Guard.range a b).fault? = none) :
    edgeFault? source c (⟨t, .range a b⟩ :: es) = none ↔
      c.ranges.find? (overlap (a, b)) = none ∧ edgeFault? source (c.takeRange a b) es = none := by
  simp only [edgeFault?, hwf]
  cases c.ranges.find? (overlap (a, b)) with
  | none => simp
  | some r => simp

lemma edgeFault?_cons_explicit {e : Edge σ k} (hwf : e.guard.fault? = none)
    (hr : e.guard.isRange = false) :
    edgeFault? source c (e :: es) = none ↔
      ∃ c', c.claim e.target e.guard.values = .ok c' ∧ edgeFault? source c' es = none := by
  obtain ⟨t, g⟩ := e
  cases g with
  | single v =>
    simp only [edgeFault?, hwf]
    cases c.claim t (Guard.single v).values <;> simp
  | set vs =>
    simp only [edgeFault?, hwf]
    cases c.claim t (Guard.set vs).values <;> simp
  | range a b => simp [Guard.isRange] at hr

lemma edgeFault?_cons_of_fault {e : Edge σ k} (hwf : e.guard.fault? ≠ none) :
    edgeFault? source c (e :: es) ≠ none := by
  obtain ⟨fault, hfault⟩ := Option.ne_none_iff_exists'.mp hwf
  simp [edgeFault?, hfault]

/-- Edges pass the check exactly if they are unambiguous, also with respect to what was taken
before. -/
lemma edgeFault?_eq_none_iff (hc : ∀ r ∈ c.ranges, (Guard.range r.1 r.2).fault? = none) :
    edgeFault? source c es = none ↔ Unambiguous es ∧ c.Respected es := by
  induction es generalizing c with
  | nil => simp [edgeFault?, unambiguous_nil, Claims.respected_nil]
  | cons e es ih =>
    by_cases hwf : e.guard.fault? = none
    · by_cases hr : e.guard.isRange = true
      · -- a range: it overlaps none of the earlier ranges, and the later ones leave it alone
        obtain ⟨t, g⟩ := e
        obtain ⟨a, b, rfl⟩ := Guard.isRange_iff.mp hr
        have hc' : ∀ r ∈ (c.takeRange a b).ranges, (Guard.range r.1 r.2).fault? = none :=
          List.forall_mem_append.mpr ⟨hc, List.forall_mem_singleton.mpr hwf⟩
        rw [edgeFault?_cons_range hwf, ih hc', unambiguous_cons_range_iff hwf hr,
          Claims.respected_cons, Claims.respected_range_iff hwf hc,
          Claims.respected_takeRange_iff (t := t)]
        tauto
      · -- explicit symbols: all of them can be claimed, and the later edges respect the claims
        have hr : e.guard.isRange = false := by simpa using hr
        rw [edgeFault?_cons_explicit hwf hr, unambiguous_cons_explicit_iff hwf hr,
          Claims.respected_cons, Claims.respected_explicit_iff hr, ← Claims.exists_claim_iff]
        constructor
        · rintro ⟨c', hclaim, hrest⟩
          rw [ih (by rw [(Claims.claim_eq_ok hclaim).1]; exact hc),
            Claims.respected_claim_iff hr hclaim] at hrest
          exact ⟨⟨hrest.1, hrest.2.2⟩, ⟨c', hclaim⟩, hrest.2.1⟩
        · rintro ⟨⟨hes, htarget⟩, ⟨c', hclaim⟩, hrest⟩
          refine ⟨c', hclaim, ?_⟩
          rw [ih (by rw [(Claims.claim_eq_ok hclaim).1]; exact hc),
            Claims.respected_claim_iff hr hclaim]
          exact ⟨hes, hrest, htarget⟩
    · refine iff_of_false (edgeFault?_cons_of_fault hwf) fun h => hwf ?_
      exact h.1.wellFormed e List.mem_cons_self

/-- A source has no fault exactly if it has at most one unconditional edge and its conditional
edges are unambiguous. -/
lemma fault?_eq_none_iff {es : Edges σ k} :
    es.fault? source = none ↔ es.unconditional.length ≤ 1 ∧ Unambiguous es.conditional := by
  rw [Edges.fault?]
  split_ifs with hlen
  · simp only [false_iff, not_and]
    intro h
    omega
  · rw [edgeFault?_eq_none_iff (by simp [Claims.empty]),
      and_iff_left (Claims.respected_empty _), and_iff_right (by omega)]

end

end StateMachine
