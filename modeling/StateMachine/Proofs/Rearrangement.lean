import StateMachine.Proofs.Acceptance
import StateMachine.Proofs.Legible

/-!
# The order of construction does not matter

States are declared and edges added one after another, guards list their symbols in some order, and
a build looks at all of them in that order. Nothing of this shows in what is built: drafts that
differ only in the order of states and edges, and in how their guards name the same symbols, are
accepted alike, and their models have the same fingerprint and lead to the same states.
-/

namespace StateMachine

open Text

variable {σ : Type} {k : Kind}

/-! ### Symbols -/

/-- The text of a number shows no more than its canonical pattern. -/
lemma DecimalLayout.text_canonical (l : DecimalLayout) {f : Format}
    (hf : f.isNaN f.quietNaN = true) (bits : Nat) :
    l.text f (f.canonical bits) = l.text f bits := by
  rw [Format.canonical]
  split_ifs with hnan
  · simp [text, hf, hnan]
  · rfl

namespace Symbol

/-- Symbols that are the same are shown alike. -/
lemma text_eq_of_same {x y : Symbol k} (h : x.same y = true) : x.text = y.text := by
  cases k with
  | f32 =>
    have hbits := congrArg UInt32.toNat (of_decide_eq_true h)
    rw [Binary32.toNat_canonical, Binary32.toNat_canonical] at hbits
    have hnan : Format.binary32.isNaN Format.binary32.quietNaN = true := by decide
    simp only [text, Binary32.text]
    rw [← DecimalLayout.text_canonical _ hnan, hbits, DecimalLayout.text_canonical _ hnan]
  | f64 =>
    have hbits := congrArg UInt64.toNat (of_decide_eq_true h)
    rw [Binary64.toNat_canonical, Binary64.toNat_canonical] at hbits
    have hnan : Format.binary64.isNaN Format.binary64.quietNaN = true := by decide
    simp only [text, Binary64.text]
    rw [← DecimalLayout.text_canonical _ hnan, hbits, DecimalLayout.text_canonical _ hnan]
  | bool | char | i8 | i16 | i32 | i64 | u8 | u16 | u32 | u64 | str =>
    rw [of_decide_eq_true h]

end Symbol

/-! ### Guards -/

namespace Guard

lemma equiv_symm {g g' : Guard k} (h : g.equiv g' = true) : g'.equiv g = true :=
  equiv_iff.mpr (equiv_iff.mp h).symm

/-- Guards that name the same symbols in the same form are rendered alike. -/
lemma canonical_eq_of_equiv {g g' : Guard k} (h : g.equiv g' = true) :
    g.canonical = g'.canonical := by
  cases g with
  | single v =>
    cases g' with
    | single w => rw [canonical, canonical, Symbol.text_eq_of_same h]
    | set ws => cases h
    | range c d => cases h
  | set vs =>
    cases g' with
    | single w => cases h
    | set ws =>
      obtain ⟨hvs, hws⟩ := equiv_set_iff.mp h
      have htexts : ∀ u, u ∈ vs.map Symbol.text ↔ u ∈ ws.map Symbol.text := by
        intro u
        constructor
        · intro hu
          obtain ⟨v, hv, rfl⟩ := List.mem_map.mp hu
          obtain ⟨w, hw, hsame⟩ := hvs v hv
          exact List.mem_map.mpr ⟨w, hw, (Symbol.text_eq_of_same hsame).symm⟩
        · intro hu
          obtain ⟨w, hw, rfl⟩ := List.mem_map.mp hu
          obtain ⟨v, hv, hsame⟩ := hws w hw
          exact List.mem_map.mpr ⟨v, hv, Symbol.text_eq_of_same hsame⟩
      rw [canonical, canonical, eraseReps_sort_eq htexts]
    | range c d => cases h
  | range a b =>
    cases g' with
    | single w => cases h
    | set ws => cases h
    | range c d =>
      simp only [equiv, Bool.and_eq_true] at h
      rw [canonical, canonical, Symbol.text_eq_of_same h.1, Symbol.text_eq_of_same h.2]

lemma WellFormed.of_equiv {g g' : Guard k} (hg : g.WellFormed) (h : g.equiv g' = true) :
    g'.WellFormed := by
  cases g' with
  | single w => trivial
  | set ws =>
    cases g with
    | set vs =>
      obtain ⟨v, hv, w, hw, hne⟩ := hg
      have hvs := (equiv_set_iff.mp h).1
      obtain ⟨v', hv', hsame⟩ := hvs v hv
      obtain ⟨w', hw', hsame'⟩ := hvs w hw
      refine ⟨v', hv', w', hw', ?_⟩
      rw [← hne, ← Symbol.same_congr_left hsame, Symbol.same_congr_right hsame']
    | single v => cases h
    | range a b => cases h
  | range c d =>
    cases g with
    | range a b =>
      simp only [equiv, Bool.and_eq_true] at h
      exact ⟨hg.1, (Symbol.order?_congr h.1 h.2).symm.trans hg.2⟩
    | single v => cases h
    | set vs => cases h

end Guard

/-! ### Edges -/

/-- Edges with the same target and guards of the same symbols. -/
def Edge.Equiv (e e' : Edge σ k) : Prop :=
  e.target = e'.target ∧ e.guard.equiv e'.guard = true

/-- The same elements up to a relation, in whatever order: they can be put in pairs. -/
def Paired {α : Type} (R : α → α → Prop) (as bs : List α) : Prop :=
  ∃ ps : List (α × α), as.Perm (ps.map Prod.fst) ∧ bs.Perm (ps.map Prod.snd) ∧
    ∀ p ∈ ps, R p.1 p.2

namespace Paired

variable {α β : Type} {R : α → α → Prop} {as bs : List α}

lemma symm (h : Paired R as bs) (hR : ∀ a b, R a b → R b a) : Paired R bs as := by
  obtain ⟨ps, has, hbs, hps⟩ := h
  refine ⟨ps.map Prod.swap, ?_, ?_, ?_⟩
  · simpa [Function.comp_def] using hbs
  · simpa [Function.comp_def] using has
  · exact List.forall_mem_map.mpr fun p hp => hR p.1 p.2 (hps p hp)

lemma exists_of_mem (h : Paired R as bs) {b : α} (hb : b ∈ bs) : ∃ a ∈ as, R a b := by
  obtain ⟨ps, has, hbs, hps⟩ := h
  obtain ⟨p, hp, rfl⟩ := List.mem_map.mp (hbs.mem_iff.mp hb)
  exact ⟨p.1, has.mem_iff.mpr (List.mem_map_of_mem hp), hps p hp⟩

/-- What does not tell related elements apart has the same values on both sides. -/
lemma perm_map (h : Paired R as bs) {f : α → β} (hf : ∀ a b, R a b → f a = f b) :
    (as.map f).Perm (bs.map f) := by
  obtain ⟨ps, has, hbs, hps⟩ := h
  have heq : (ps.map Prod.fst).map f = (ps.map Prod.snd).map f := by
    rw [List.map_map, List.map_map]
    exact List.map_congr_left fun p hp => hf p.1 p.2 (hps p hp)
  exact (has.map f).trans (heq ▸ (hbs.map f).symm)

lemma pairwise {P : α → α → Prop} (h : Paired R as bs) (hsymm : ∀ {a b}, P a b → P b a)
    (hP : ∀ a b a' b', R a b → R a' b' → P a a' → P b b') (has : as.Pairwise P) :
    bs.Pairwise P := by
  obtain ⟨ps, hfst, hsnd, hps⟩ := h
  rw [hfst.pairwise_iff hsymm, List.pairwise_map] at has
  rw [hsnd.pairwise_iff hsymm, List.pairwise_map]
  refine has.imp_of_mem fun {p q} hp hq hpq => ?_
  exact hP p.1 p.2 q.1 q.2 (hps p hp) (hps q hq) hpq

end Paired

namespace Edges

/-- The same edges in another order, with guards that name the same symbols. -/
structure Rearranges (e e' : Edges σ k) : Prop where
  conditional : Paired Edge.Equiv e.conditional e'.conditional
  unconditional : e.unconditional.Perm e'.unconditional

variable {e e' : Edges σ k}

lemma Rearranges.symm (h : e.Rearranges e') : e'.Rearranges e :=
  ⟨h.conditional.symm fun _ _ hc => ⟨hc.1.symm, Guard.equiv_symm hc.2⟩, h.unconditional.symm⟩

lemma Rearranges.mem_targets (h : e.Rearranges e') {t : σ} (ht : t ∈ e.targets) :
    t ∈ e'.targets := by
  have hperm := h.conditional.perm_map (f := Edge.target) fun _ _ hc => hc.1
  rcases List.mem_append.mp ht with ht | ht
  · exact List.mem_append_left _ (hperm.mem_iff.mp ht)
  · exact List.mem_append_right _ (h.unconditional.mem_iff.mp ht)

/-- The order of the edges does not matter for what can be followed. -/
lemma Rearranges.acceptable (h : e.Rearranges e') (he : e.Acceptable) : e'.Acceptable where
  unconditional := h.unconditional.length_eq ▸ he.unconditional
  wellFormed c' hc' := by
    obtain ⟨c, hc, -, hguard⟩ := h.conditional.exists_of_mem hc'
    exact (he.wellFormed c hc).of_equiv hguard
  explicit c₁' h₁' c₂' h₂' hr₁ hr₂ x hx₁ hx₂ := by
    obtain ⟨c₁, h₁, ht₁, hg₁⟩ := h.conditional.exists_of_mem h₁'
    obtain ⟨c₂, h₂, ht₂, hg₂⟩ := h.conditional.exists_of_mem h₂'
    rw [← Guard.isRange_eq_of_equiv hg₁] at hr₁
    rw [← Guard.isRange_eq_of_equiv hg₂] at hr₂
    rw [← Guard.accepts_eq_of_equiv hg₁] at hx₁
    rw [← Guard.accepts_eq_of_equiv hg₂] at hx₂
    rw [← ht₁, ← ht₂]
    exact he.explicit c₁ h₁ c₂ h₂ hr₁ hr₂ x hx₁ hx₂
  ranges := by
    refine h.conditional.pairwise ?_ ?_ he.ranges
    · intro c c' hdisjoint hr' hr x hx
      exact hdisjoint hr hr' x hx.symm
    · rintro c d c' d' ⟨-, hg⟩ ⟨-, hg'⟩ hdisjoint hr hr' x
      rw [← Guard.accepts_eq_of_equiv hg, ← Guard.accepts_eq_of_equiv hg']
      rw [← Guard.isRange_eq_of_equiv hg] at hr
      rw [← Guard.isRange_eq_of_equiv hg'] at hr'
      exact hdisjoint hr hr' x

/-- A fallback that stands alone is first in every order. -/
lemma Rearranges.head?_unconditional (h : e.Rearranges e') (he : e.unconditional.length ≤ 1) :
    e.unconditional.head? = e'.unconditional.head? := by
  have hperm := h.unconditional
  match hu : e.unconditional, he with
  | [], _ =>
    rw [hu] at hperm
    rw [List.nil_perm.mp hperm]
  | [u], _ =>
    rw [hu] at hperm
    rw [List.singleton_perm.mp hperm]

end Edges

/-! ### Drafts -/

namespace Draft

/-- The same draft put together in another order: the parts are the same, the states are declared
in whatever order, and so are the edges of every source. -/
structure Rearranges [DecidableEq σ] (d d' : Draft σ k) : Prop where
  init_eq : d.init = d'.init
  exit_eq : d.exit = d'.exit
  allowUnreachable_eq : d.allowUnreachable = d'.allowUnreachable
  states : d.states.Perm d'.states
  edges : ∀ s, d.IsSource s → ∀ e e', d.edges.find? s = some e → d'.edges.find? s = some e' →
    e.Rearranges e'

namespace Rearranges

variable [DecidableEq σ] {d d' : Draft σ k} {s t : σ}

lemma isSource_iff (h : d.Rearranges d') : d.IsSource s ↔ d'.IsSource s := by
  rw [IsSource, IsSource, h.init_eq, h.states.mem_iff]

lemma symm (h : d.Rearranges d') : d'.Rearranges d where
  init_eq := h.init_eq.symm
  exit_eq := h.exit_eq.symm
  allowUnreachable_eq := h.allowUnreachable_eq.symm
  states := h.states.symm
  edges s hs e e' he he' := (h.edges s (h.isSource_iff.mpr hs) e' e he' he).symm

/-- The edges of a source of the one are edges of the same source of the other. -/
lemma exists_find? (h : d.Rearranges d') (hd : d.Consistent) (hd' : d'.Consistent) {e : Edges σ k}
    (he : d.edges.find? s = some e) : ∃ e', d'.edges.find? s = some e' ∧ e.Rearranges e' := by
  have hs : d.IsSource s := (hd.isSome_find?_iff s).mp (by rw [he]; rfl)
  obtain ⟨e', he'⟩ :=
    Option.isSome_iff_exists.mp ((hd'.isSome_find?_iff s).mpr (h.isSource_iff.mp hs))
  exact ⟨e', he', h.edges s hs e e' he he'⟩

lemma reachable (h : d.Rearranges d') (hd : d.Consistent) (hd' : d'.Consistent)
    (hpath : d.Reachable s t) : d'.Reachable s t := by
  refine Relation.ReflTransGen.mono ?_ _ _ hpath
  rintro a b ⟨e, he, hb⟩
  obtain ⟨e', he', hedges⟩ := h.exists_find? hd hd' he
  exact ⟨e', he', hedges.mem_targets hb⟩

lemma acceptable (h : d.Rearranges d') (hd : d.Consistent) (hd' : d'.Consistent)
    (hok : d.Acceptable) : d'.Acceptable where
  init_isSome := h.init_eq ▸ hok.init_isSome
  exit_isSome := h.exit_eq ▸ hok.exit_isSome
  edges s e' hs he' := by
    obtain ⟨e, he, hedges⟩ := h.symm.exists_find? hd' hd he'
    exact hedges.symm.acceptable (hok.edges s e (h.isSource_iff.mpr hs) he)
  reachable := by
    refine (h.allowUnreachable_eq ▸ hok.reachable).imp_right fun hall start hstart s hs => ?_
    exact h.reachable hd hd' (hall start (h.init_eq.trans hstart) s (h.states.mem_iff.mpr hs))

variable [Label σ]

/-- Sources of an accepted draft are frozen to states that agree and are rendered alike. -/
lemma freeze (h : d.Rearranges d') (hd : d.Consistent) (hd' : d'.Consistent) (hok : d.Acceptable)
    (hs : d.IsSource s) :
    (d.freeze s).Agrees (d'.freeze s) ∧ (d.freeze s).fragment = (d'.freeze s).fragment := by
  obtain ⟨e, he⟩ := Option.isSome_iff_exists.mp ((hd.isSome_find?_iff s).mpr hs)
  obtain ⟨e', he', hedges⟩ := h.exists_find? hd hd' he
  have hhead := hedges.head?_unconditional (hok.edges s e hs he).unconditional
  simp only [Draft.freeze, he, he', State.fragment]
  refine ⟨⟨rfl, hhead, ?_, ?_⟩, ?_⟩
  · intro c hc
    obtain ⟨c', hc', htarget, hguard⟩ := hedges.symm.conditional.exists_of_mem hc
    exact ⟨c', hc', htarget.symm, Guard.equiv_symm hguard⟩
  · intro c' hc'
    obtain ⟨c, hc, htarget, hguard⟩ := hedges.conditional.exists_of_mem hc'
    exact ⟨c, hc, htarget.symm, Guard.equiv_symm hguard⟩
  · have hperm := hedges.conditional.perm_map
      (f := fun c => Label.text c.target ++ c.guard.canonical)
      fun c c' hc => by rw [hc.1, Guard.canonical_eq_of_equiv hc.2]
    rw [sort_eq_of_perm hperm, hhead]

/-- What is built from the one draft is built from the other, in another order. -/
lemma build (h : d.Rearranges d') (hd : d.Consistent) (hd' : d'.Consistent) {m : Model σ k}
    (hm : d.build.result = .ok m) :
    ∃ m', d'.build.result = .ok m' ∧ m.Agrees m' ∧ m.fingerprint = m'.fingerprint := by
  obtain ⟨hok, start, exit, hinit, hexit, rfl⟩ := hd.build_eq_ok_iff_acceptable.mp hm
  have hok' := h.acceptable hd hd' hok
  refine ⟨⟨d'.freeze start, exit, d'.states.map d'.freeze⟩,
    hd'.build_eq_ok_iff_acceptable.mpr
      ⟨hok', start, exit, h.init_eq ▸ hinit, h.exit_eq ▸ hexit, rfl⟩, ?_, ?_⟩
  · refine ⟨rfl, (h.freeze hd hd' hok (Or.inl hinit)).1, ?_, ?_⟩
    · refine List.forall_mem_map.mpr fun s hs => ?_
      exact ⟨d'.freeze s, List.mem_map_of_mem (h.states.mem_iff.mp hs),
        (h.freeze hd hd' hok (Or.inr hs)).1⟩
    · refine List.forall_mem_map.mpr fun s hs => ?_
      exact ⟨d.freeze s, List.mem_map_of_mem (h.states.mem_iff.mpr hs),
        (h.symm.freeze hd' hd hok' (Or.inr hs)).1⟩
  · have hfragments : (d.states.map d.freeze).map State.fragment
        = (d.states.map d'.freeze).map State.fragment := by
      rw [List.map_map, List.map_map]
      exact List.map_congr_left fun s hs => (h.freeze hd hd' hok (Or.inr hs)).2
    have hsort := sort_eq_of_perm ((h.states.map d'.freeze).map State.fragment)
    simp only [Model.fingerprint]
    rw [(h.freeze hd hd' hok (Or.inl hinit)).2, hfragments, hsort]

end Rearranges

variable [DecidableEq σ] [Label σ]

/-- The order of construction does not matter. Drafts after any commands that differ only in the
order of their states and edges, and in how guards name the same symbols, are built alike: one of
them can be built exactly if the other can, and then the models have the same fingerprint and lead
every symbol from every label to the same label. -/
theorem build_ignores_order {cs cs' : List (Command σ k)} (h : (after cs).Rearranges (after cs')) :
    ((∃ m, (after cs).build.result = .ok m) ↔ ∃ m', (after cs').build.result = .ok m') ∧
      ∀ m m', (after cs).build.result = .ok m → (after cs').build.result = .ok m' →
        m.fingerprint = m'.fingerprint ∧ ∀ v x, m.next v x = m'.next v x := by
  have hd := consistent_after cs
  have hd' := consistent_after cs'
  refine ⟨⟨?_, ?_⟩, fun m m' hm hm' => ?_⟩
  · rintro ⟨m, hm⟩
    obtain ⟨m', hm', -, -⟩ := h.build hd hd' hm
    exact ⟨m', hm'⟩
  · rintro ⟨m', hm'⟩
    obtain ⟨m, hm, -, -⟩ := h.symm.build hd' hd hm'
    exact ⟨m, hm⟩
  · obtain ⟨m₁, hm₁, hagree, hprint⟩ := h.build hd hd' hm
    obtain rfl : m₁ = m' := Except.ok.inj (hm₁.symm.trans hm')
    have hvalid : m.Valid := Model.Built.valid ⟨cs, hm⟩
    have hvalid' : m₁.Valid := Model.Built.valid ⟨cs', hm'⟩
    exact ⟨hprint, hagree.next_eq hvalid hvalid'⟩

/-- A machine over numbers, put together in one order. -/
def forwards : List (Command Int32 .f64) :=
  [.edit (.setInit 0), .edit (.setExit 9), .edit (.addState 1), .edit (.addState 2),
    .edit (.addTransition 0 1 (some (.set [⟨0x3ff0000000000000⟩, ⟨0x7ff8000000000000⟩]))),
    .edit (.addTransition 0 2 (some (.range ⟨0x0⟩ ⟨0x4000000000000000⟩))),
    .edit (.addTransition 1 9 none)]

/-- The same machine in another order, with another NaN and a symbol named twice. -/
def backwards : List (Command Int32 .f64) :=
  [.edit (.setExit 9), .edit (.addState 2), .edit (.addState 1),
    .edit (.addTransition 1 9 none), .edit (.setInit 0),
    .edit (.addTransition 0 2 (some (.range ⟨0x0⟩ ⟨0x4000000000000000⟩))),
    .edit (.addTransition 0 1 (some (.set [⟨0xfff0000000000001⟩, ⟨0x3ff0000000000000⟩,
      ⟨0x7ff8000000000001⟩])))]

lemma rearranges_forwards_backwards : (after forwards).Rearranges (after backwards) := by
  refine ⟨rfl, rfl, rfl, List.Perm.swap _ _ _, ?_⟩
  rintro s (hs | hs) e e' he he'
  · obtain rfl : (0 : Int32) = s := Option.some.inj hs
    cases he
    cases he'
    refine ⟨?_, List.Perm.refl _⟩
    exact ⟨[(⟨1, .set [⟨0x3ff0000000000000⟩, ⟨0x7ff8000000000000⟩]⟩,
        ⟨1, .set [⟨0xfff0000000000001⟩, ⟨0x3ff0000000000000⟩, ⟨0x7ff8000000000001⟩]⟩),
      (⟨2, .range ⟨0x0⟩ ⟨0x4000000000000000⟩⟩, ⟨2, .range ⟨0x0⟩ ⟨0x4000000000000000⟩⟩)],
      List.Perm.refl _, List.Perm.swap _ _ _, by
        simp only [List.forall_mem_cons]
        exact ⟨⟨rfl, by decide⟩, ⟨rfl, by decide⟩, by simp⟩⟩
  · -- neither of the declared states has conditional edges
    have hstates : (after forwards).states = [1, 2] := rfl
    obtain rfl | rfl : s = 1 ∨ s = 2 := by simpa [hstates] using hs
    all_goals
      cases he
      cases he'
      exact ⟨⟨[], List.Perm.refl _, List.Perm.refl _, by simp⟩, List.Perm.refl _⟩

theorem build_ignores_order_backwards :
    (after forwards).Rearranges (after backwards) ∧
      ∃ m m', (after forwards).build.result = .ok m ∧ (after backwards).build.result = .ok m' ∧
        m.fingerprint = m'.fingerprint ∧ ∀ v x, m.next v x = m'.next v x := by
  have h := rearranges_forwards_backwards
  obtain ⟨hiff, heq⟩ := build_ignores_order h
  have hm : (after forwards).build.result = .ok _ := rfl
  obtain ⟨m', hm'⟩ := hiff.mp ⟨_, hm⟩
  exact ⟨h, _, m', hm, hm', heq _ m' hm hm'⟩

end Draft

end StateMachine
