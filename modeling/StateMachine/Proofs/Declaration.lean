import StateMachine.Declaration.Emission
import StateMachine.Proofs.Acceptance
import StateMachine.Proofs.Code

/-!
# What becomes of declared transitions

The transitions of a declaration are added to a draft one after another. One with a guard *stands*
if no later one with a guard goes the same way, from the same source to the same target: the edge of
the earlier one gets the guard of the later one. The edges of the draft are those of the standing
transitions and no others, so that in the code of the machine every standing transition takes
effect.
-/

namespace StateMachine

open Source

/-! ### Steps that succeed -/

section

variable {ε α β : Type}

lemma toOption_eq_some {x : Except ε α} {a : α} : x.toOption = some a ↔ x = .ok a := by
  cases x with
  | error e => simp [Except.toOption]
  | ok a => simp [Except.toOption]

/-- What holds at the start and is kept by every step that succeeds holds at the end, also if it is
about the elements so far. -/
lemma foldlM_induction {f : β → α → Except ε β} {P : List α → β → Prop} {b b' : β} {l : List α}
    (h : l.foldlM f b = .ok b') (hb : P [] b)
    (hstep : ∀ l a b b', P l b → f b a = .ok b' → P (l ++ [a]) b') : P l b' := by
  induction l using List.reverseRecOn generalizing b' with
  | nil =>
    cases h
    exact hb
  | append_singleton l a ih =>
    rw [List.foldlM_append] at h
    obtain ⟨c, hc, h⟩ := bind_eq_ok.mp h
    rw [List.foldlM_cons] at h
    obtain ⟨d, hd, h⟩ := bind_eq_ok.mp h
    cases h
    exact hstep l a c b' (ih hc) hd

end

/-! ### Guards as they are written -/

namespace GuardExpr

/-- The symbols that are read where symbols are listed, by themselves or in a set. For some literals
in single precision these are not the symbols that are written, since such literals are rounded
twice. -/
def listed (k : Kind) : GuardExpr → List (Symbol k)
  | .single e => (Symbol.ofExpr k e).toOption.toList
  | .set es => es.filterMap fun e => (Symbol.ofExpr k e).toOption
  | .range _ _ => []

/-- The ends of a range. -/
def ends? (k : Kind) : GuardExpr → Option (Symbol k × Symbol k)
  | .range a b => do
    let start ← (Symbol.ofExpr k a).toOption
    let stop ← (Symbol.ofExpr k b).toOption
    pure (start, stop)
  | _ => none

variable {k : Kind}

/-- The symbol is one of those that are listed. -/
def Lists (g : GuardExpr) (x : Symbol k) : Prop := ∃ v ∈ g.listed k, v.same x = true

/-- The symbol is in the range. -/
def Spans (g : GuardExpr) (x : Symbol k) : Prop :=
  ∃ r, g.ends? k = some r ∧ x.within r.1 r.2 = true

lemma filterMap_toOption_of_mapM {ε α β : Type} {f : α → Except ε β} {l : List α} {l' : List β}
    (h : l.mapM f = .ok l') : l.filterMap (fun a => (f a).toOption) = l' := by
  have hall := forall₂_of_mapM_eq_ok h
  clear h
  induction hall with
  | nil => rfl
  | cons ha _ ih =>
    rw [List.filterMap_cons, ha, ih]
    rfl

/-- The guard that is read accepts what is written: either a range, or symbols that are listed. -/
lemma read_cases {g : GuardExpr} {guard : Guard k} (h : g.read k = .ok guard) :
    (guard.isRange = false ∧ ∀ x, (guard.accepts x = true ↔ g.Lists x) ∧ ¬ g.Spans x) ∨
      guard.isRange = true ∧ ∀ x, (guard.accepts x = true ↔ g.Spans x) ∧ ¬ g.Lists x := by
  cases g with
  | single e =>
    obtain ⟨v, hv, h⟩ := bind_eq_ok.mp h
    cases h
    refine Or.inl ⟨rfl, fun x => ⟨?_, ?_⟩⟩
    · simp [Guard.accepts, Lists, listed, hv, Except.toOption]
    · simp [Spans, ends?]
  | set es =>
    obtain ⟨vs, hvs, h⟩ := bind_eq_ok.mp h
    cases h
    refine Or.inl ⟨Guard.isRange_ofValues vs, fun x => ⟨?_, ?_⟩⟩
    · rw [Guard.accepts_ofValues, Lists, listed, filterMap_toOption_of_mapM hvs]
    · simp [Spans, ends?]
  | range a b =>
    obtain ⟨start, hstart, h⟩ := bind_eq_ok.mp h
    obtain ⟨stop, hstop, h⟩ := bind_eq_ok.mp h
    rw [mapError_eq_ok, Guard.mkRange] at h
    split at h
    · cases h
    · cases h
      refine Or.inr ⟨rfl, fun x => ⟨?_, ?_⟩⟩
      · simp [Guard.accepts, Spans, ends?, hstart, hstop, Except.toOption]
      · simp [Lists, listed]

end GuardExpr

/-! ### Standing transitions -/

namespace Transition

/-- Both have guards and go the same way. -/
def Replaces (u t : Transition) : Prop :=
  u.guard.isSome = true ∧ t.guard.isSome = true ∧ u.source.spelling = t.source.spelling ∧
    u.target.spelling = t.target.spelling

/-- One of the transitions, which no later one replaces. -/
def Stands (t : Transition) (ts : List Transition) : Prop :=
  ∃ earlier later, ts = earlier ++ t :: later ∧ ∀ u ∈ later, ¬ u.Replaces t

variable {t u : Transition} {ts : List Transition}

lemma not_stands_nil : ¬ t.Stands [] := by
  rintro ⟨earlier, later, h, -⟩
  simp at h

lemma Stands.mem (h : t.Stands ts) : t ∈ ts := by
  obtain ⟨earlier, later, rfl, -⟩ := h
  simp

lemma stands_of_guard_eq_none (ht : t ∈ ts) (hguard : t.guard = none) : t.Stands ts := by
  obtain ⟨earlier, later, rfl⟩ := List.append_of_mem ht
  refine ⟨earlier, later, rfl, fun u _ hu => ?_⟩
  simp [Replaces, hguard] at hu

lemma stands_append_singleton : t.Stands (ts ++ [u]) ↔ t = u ∨ t.Stands ts ∧ ¬ u.Replaces t := by
  constructor
  · rintro ⟨earlier, later, heq, hlater⟩
    obtain rfl | ⟨later, v, rfl⟩ := List.eq_nil_or_concat' later
    · exact Or.inl (List.singleton_inj.mp (List.append_inj' heq rfl).2).symm
    · rw [← List.cons_append, ← List.append_assoc] at heq
      obtain ⟨rfl, hv⟩ := List.append_inj' heq rfl
      obtain rfl := List.singleton_inj.mp hv
      refine Or.inr ⟨⟨earlier, later, rfl, fun w hw => ?_⟩, ?_⟩
      · exact hlater w (List.mem_append_left _ hw)
      · exact hlater u (by simp)
  · rintro (rfl | ⟨⟨earlier, later, rfl, hlater⟩, hu⟩)
    · exact ⟨ts, [], rfl, by simp⟩
    · refine ⟨earlier, later ++ [u], by simp, ?_⟩
      exact List.forall_mem_append.mpr ⟨hlater, by simpa using hu⟩

/-- The guard of a transition, if it has one. -/
def readGuard (k : Kind) (t : Transition) : Except Fault (Option (Guard k)) :=
  match t.guard with
  | some g => (g.read k).map some
  | none => pure none

lemma readGuard_eq_ok_some {k : Kind} {guard : Guard k} :
    t.readGuard k = .ok (some guard) ↔ ∃ g, t.guard = some g ∧ g.read k = .ok guard := by
  rw [readGuard]
  cases t.guard with
  | none => simp [pure, Except.pure]
  | some g => cases h : g.read k <;> simp [h, Except.map]

lemma readGuard_eq_ok_none {k : Kind} : t.readGuard k = .ok none ↔ t.guard = none := by
  rw [readGuard]
  cases t.guard with
  | none => simp [pure, Except.pure]
  | some g => cases h : g.read k <;> simp [h, Except.map]

lemma isSome_of_readGuard {k : Kind} {guard : Option (Guard k)} (h : t.readGuard k = .ok guard) :
    guard.isSome = t.guard.isSome := by
  cases guard with
  | none => rw [readGuard_eq_ok_none.mp h]; rfl
  | some g =>
    obtain ⟨g', hg', -⟩ := readGuard_eq_ok_some.mp h
    rw [hg']
    rfl

end Transition

/-! ### Edges -/

namespace Edges

variable {σ : Type} {k : Kind}

/-- There is an edge to the target, with this guard or without one. -/
def Has (e : Edges σ k) (t : σ) : Option (Guard k) → Prop
  | some g => ⟨t, g⟩ ∈ e.conditional
  | none => t ∈ e.unconditional

lemma not_has_empty (t : σ) (g : Option (Guard k)) : ¬ (empty : Edges σ k).Has t g := by
  cases g <;> simp [Has, empty]

variable [DecidableEq σ]

lemma mem_putGuard {t : σ} {g : Guard k} {cs : List (Edge σ k)}
    (hcs : (cs.map Edge.target).Nodup) {c : Edge σ k} :
    c ∈ putGuard t g cs ↔ c = ⟨t, g⟩ ∨ c ∈ cs ∧ c.target ≠ t := by
  induction cs with
  | nil => simp [putGuard]
  | cons d ds ih =>
    rw [List.map_cons, List.nodup_cons] at hcs
    rw [putGuard]
    split_ifs with hd
    · -- no other edge leads to the target
      have hds : ∀ c ∈ ds, c.target ≠ t := by
        rintro c hc rfl
        exact hcs.1 (hd ▸ List.mem_map_of_mem hc)
      rw [List.mem_cons, List.mem_cons]
      refine or_congr_right ⟨fun hc => ⟨Or.inr hc, hds c hc⟩, fun hc => ?_⟩
      exact hc.1.resolve_left fun heq => hc.2 (heq ▸ hd)
    · rw [List.mem_cons, List.mem_cons, ih hcs.2]
      constructor
      · rintro (rfl | rfl | ⟨hc, hne⟩)
        · exact Or.inr ⟨Or.inl rfl, hd⟩
        · exact Or.inl rfl
        · exact Or.inr ⟨Or.inr hc, hne⟩
      · rintro (rfl | ⟨rfl | hc, hne⟩)
        · exact Or.inr (Or.inl rfl)
        · exact Or.inl rfl
        · exact Or.inr (Or.inr ⟨hc, hne⟩)

/-- A new edge takes the place of one that goes the same way, if both have guards. -/
lemma has_add {e : Edges σ k} (he : (e.conditional.map Edge.target).Nodup) {t u : σ}
    {g g' : Option (Guard k)} : (e.add u g').Has t g ↔
      (t = u ∧ g = g') ∨ e.Has t g ∧ ¬ (g'.isSome = true ∧ g.isSome = true ∧ u = t) := by
  cases g' with
  | some g' =>
    cases g with
    | some g => simp [add, addConditional, Has, mem_putGuard he, eq_comm]
    | none => simp [add, addConditional, Has]
  | none =>
    cases g with
    | some g =>
      rw [add, addUnconditional]
      split_ifs <;> simp [Has]
    | none =>
      rw [add, addUnconditional]
      split_ifs with hu
      · simp only [Has]
        grind
      · simp [Has, or_comm]

end Edges

/-! ### Drafts -/

namespace Draft

variable {σ : Type} {k : Kind} [DecidableEq σ] [Label σ]

lemma edit_eq_ok {d d' : Draft σ k} {e : Edit σ k} :
    d.edit e = .ok d' ↔ d.attempt e = (.ok (), d') := by
  rw [edit]
  rcases d.attempt e with ⟨_ | _, d₁⟩ <;> simp

lemma snd_attempt_of_edit {d d' : Draft σ k} {e : Edit σ k} (h : d.edit e = .ok d') :
    (d.attempt e).2 = d' := by
  rw [edit_eq_ok.mp h]

/-- An edit that succeeds is one more command. -/
lemma exists_after_of_edit {d d' : Draft σ k} {e : Edit σ k} (hd : ∃ cs, d = after cs)
    (h : d.edit e = .ok d') : ∃ cs, d' = after cs := by
  obtain ⟨cs, rfl⟩ := hd
  refine ⟨cs ++ [.edit e], ?_⟩
  rw [after, List.foldl_append]
  exact (snd_attempt_of_edit h).symm

lemma edit_addTransition_eq_ok {d d' : Draft σ k} {s t : σ} {g : Option (Guard k)}
    (h : d.edit (.addTransition s t g) = .ok d') :
    (d.edges.find? s).isSome = true ∧ d.IsTarget t ∧ d' = d.updateSource s (·.add t g) := by
  rw [edit_eq_ok, attempt, addTransition] at h
  split_ifs at h with hsource htarget
  · cases h
  · cases h
    exact ⟨by simpa [Option.isSome_iff_ne_none] using hsource, htarget, rfl⟩
  · cases h

/-- The draft comes out of edits, and its edges are those of the standing transitions. -/
structure Reflects (d : Draft String k) (ts : List Transition) : Prop where
  reached : ∃ cs, d = after cs
  ends : ∀ t ∈ ts, d.IsSource t.source.spelling ∧ d.IsTarget t.target.spelling
  readable : ∀ t ∈ ts, ∃ guard, t.readGuard k = .ok guard
  edges : ∀ s e, d.edges.find? s = some e → ∀ target guard, e.Has target guard ↔
    ∃ t : Transition, t.Stands ts ∧ t.source.spelling = s ∧ t.target.spelling = target ∧
      t.readGuard k = .ok guard

end Draft

namespace Draft.Reflects

variable {k : Kind} {d d' : Draft String k} {ts : List Transition} {u : Transition}

lemma consistent (h : d.Reflects ts) : d.Consistent := by
  obtain ⟨cs, rfl⟩ := h.reached
  exact consistent_after cs

/-- A transition that is added takes the place of the one that it replaces. -/
lemma addTransition (h : d.Reflects ts) {guard : Option (Guard k)}
    (hguard : u.readGuard k = .ok guard)
    (hedit : d.edit (.addTransition u.source.spelling u.target.spelling guard) = .ok d') :
    d'.Reflects (ts ++ [u]) := by
  have hd := h.consistent
  obtain ⟨hsource, htarget, rfl⟩ := edit_addTransition_eq_ok hedit
  refine ⟨?_, ?_, ?_, fun s e he target g => ?_⟩
  · exact exists_after_of_edit h.reached hedit
  · refine List.forall_mem_append.mpr ⟨h.ends, List.forall_mem_singleton.mpr ?_⟩
    exact ⟨(hd.isSome_find?_iff _).mp hsource, htarget⟩
  · exact List.forall_mem_append.mpr ⟨h.readable, List.forall_mem_singleton.mpr ⟨guard, hguard⟩⟩
  · rw [updateSource, Assoc.find?_update] at he
    simp only [Transition.stands_append_singleton]
    split_ifs at he with hs
    · obtain ⟨e', he', rfl⟩ := Option.map_eq_some_iff.mp he
      rw [Edges.has_add (hd.tidy s e' he').conditional_nodup, h.edges s e' he']
      constructor
      · rintro (⟨rfl, rfl⟩ | ⟨⟨t, ht, hts, htt, htg⟩, hne⟩)
        · exact ⟨u, Or.inl rfl, hs.symm, rfl, hguard⟩
        · refine ⟨t, Or.inr ⟨ht, fun hu => hne ?_⟩, hts, htt, htg⟩
          rw [Transition.isSome_of_readGuard hguard, Transition.isSome_of_readGuard htg]
          exact ⟨hu.1, hu.2.1, hu.2.2.2.trans htt⟩
      · rintro ⟨t, rfl | ⟨ht, hu⟩, hts, htt, htg⟩
        · exact Or.inl ⟨htt.symm, Except.ok.inj (htg.symm.trans hguard)⟩
        · refine Or.inr ⟨⟨t, ht, hts, htt, htg⟩, fun hne => hu ?_⟩
          rw [Transition.isSome_of_readGuard hguard, Transition.isSome_of_readGuard htg] at hne
          exact ⟨hne.1, hne.2.1, (hts.trans hs).symm, hne.2.2.trans htt.symm⟩
    · -- the edges of another source stay as they are
      rw [h.edges s e he]
      constructor
      · rintro ⟨t, ht, hts, htt, htg⟩
        exact ⟨t, Or.inr ⟨ht, fun hu => hs (hts.symm.trans hu.2.2.1.symm)⟩, hts, htt, htg⟩
      · rintro ⟨t, rfl | ⟨ht, -⟩, hts, htt, htg⟩
        · exact absurd hts.symm hs
        · exact ⟨t, ht, hts, htt, htg⟩

end Draft.Reflects

namespace Draft

variable {σ : Type} {k : Kind} [DecidableEq σ] {d : Draft σ k}

/-- No source has an edge. -/
def Bare (d : Draft σ k) : Prop := ∀ s e, d.edges.find? s = some e → e = .empty

namespace Bare

lemma ensureSource (h : d.Bare) (s : σ) : (d.ensureSource s).Bare := by
  intro t e he
  rw [Draft.ensureSource, Assoc.find?_ensure] at he
  split_ifs at he with ht
  · cases hfind : d.edges.find? t with
    | none =>
      rw [hfind] at he
      exact (Option.some.inj he).symm
    | some e' =>
      rw [hfind] at he
      obtain rfl := Option.some.inj he
      exact h t _ hfind
  · exact h t e he

lemma withdrawInit (h : d.Bare) : d.withdrawInit.Bare := by
  rw [Draft.withdrawInit]
  split
  · intro t e he
    simp only [dropSource, Assoc.find?_erase] at he
    split_ifs at he
    exact h t e he
  · exact h

lemma withdrawExit (h : d.Bare) : d.withdrawExit.Bare := by
  rw [Draft.withdrawExit]
  split
  · intro t e he
    simp only [Draft.dropTarget, Assoc.find?_map] at he
    obtain ⟨e', he', rfl⟩ := Option.map_eq_some_iff.mp he
    rw [h t e' he']
    rfl
  · exact h

variable [Label σ]

lemma setInit (h : d.Bare) (s : σ) : (d.setInit s).2.Bare := by
  rw [Draft.setInit]
  split_ifs
  · exact h
  · exact h
  · exact h
  · exact ensureSource (d := { d.withdrawInit with init := some s }) h.withdrawInit s

lemma setExit (h : d.Bare) (s : σ) : (d.setExit s).2.Bare := by
  rw [Draft.setExit]
  split_ifs
  · exact h
  · exact h
  · exact h
  · exact h.withdrawExit

lemma addState (h : d.Bare) (s : σ) : (d.addState s).2.Bare := by
  rw [Draft.addState]
  split_ifs
  · exact h
  · exact h
  · exact h
  · exact ensureSource (d := { d with states := d.states ++ [s] }) h s

end Bare

end Draft

/-! ### Declarations -/

namespace Declaration

variable {d : Declaration}

lemma reflects_skeleton {dr : Draft String d.kind} (h : d.skeleton = .ok dr) : dr.Reflects [] := by
  obtain ⟨d₁, h₁, h⟩ := bind_eq_ok.mp h
  obtain ⟨d₂, h₂, h⟩ := bind_eq_ok.mp h
  have hempty : (.empty : Draft String d.kind).Bare := by simp [Draft.Bare, Draft.empty]
  have hbare₁ : d₁.Bare := Draft.snd_attempt_of_edit h₁ ▸ hempty.setInit _
  have hbare₂ : d₂.Bare := Draft.snd_attempt_of_edit h₂ ▸ hbare₁.setExit _
  have hreached₂ : ∃ cs, d₂ = .after cs :=
    Draft.exists_after_of_edit (Draft.exists_after_of_edit ⟨[], rfl⟩ h₁) h₂
  obtain ⟨hreached, hbare⟩ : (∃ cs, dr = .after cs) ∧ dr.Bare := by
    refine foldlM_induction (P := fun _ dr => (∃ cs, dr = .after cs) ∧ dr.Bare) h
      ⟨hreached₂, hbare₂⟩ ?_
    rintro - e dr dr' ⟨hreached, hbare⟩ hadd
    exact ⟨Draft.exists_after_of_edit hreached hadd,
      Draft.snd_attempt_of_edit hadd ▸ hbare.addState _⟩
  refine ⟨hreached, by simp, by simp, fun s e he target guard => ?_⟩
  rw [hbare s e he]
  refine iff_of_false (Edges.not_has_empty target guard) ?_
  rintro ⟨t, ht, -⟩
  exact Transition.not_stands_nil ht

lemma addTransition_eq (dr : Draft String d.kind) (t : Transition) :
    d.addTransition dr t = t.readGuard d.kind >>= fun guard =>
      (dr.edit (.addTransition t.source.spelling t.target.spelling guard)).mapError
        Fault.model := by
  rw [addTransition, Transition.readGuard]
  cases t.guard <;> rfl

lemma reflects_addTransition {dr dr' : Draft String d.kind} {ts : List Transition} {t : Transition}
    (hdr : dr.Reflects ts) (h : d.addTransition dr t = .ok dr') : dr'.Reflects (ts ++ [t]) := by
  rw [addTransition_eq] at h
  obtain ⟨guard, hguard, hedit⟩ := bind_eq_ok.mp h
  exact hdr.addTransition hguard (mapError_eq_ok.mp hedit)

/-- The draft of a declaration has the edges of its standing transitions. -/
lemma reflects_draft {dr : Draft String d.kind} (h : d.draft = .ok dr) :
    dr.Reflects d.transitions := by
  obtain ⟨start, hstart, h⟩ := bind_eq_ok.mp h
  obtain ⟨dr', hfold, h⟩ := bind_eq_ok.mp h
  have hdr' : dr'.Reflects d.transitions :=
    foldlM_induction (P := fun ts dr => dr.Reflects ts) hfold
      (reflects_skeleton (mapError_eq_ok.mp hstart)) fun _ _ _ _ => reflects_addTransition
  -- the last edit only sets a flag
  have hedit := mapError_eq_ok.mp h
  have hreached := Draft.exists_after_of_edit hdr'.reached hedit
  cases Draft.edit_eq_ok.mp hedit
  exact ⟨hreached, hdr'.ends, hdr'.readable, hdr'.edges⟩

end Declaration

/-! ### Models -/

section

variable {k : Kind} (ts : List Transition) (source : String) (x : Symbol k)

/-- A standing transition from the source lists the symbol. -/
def ListedFrom : Prop :=
  ∃ u : Transition, u.Stands ts ∧ u.source.spelling = source ∧ ∃ g, u.guard = some g ∧ g.Lists x

/-- The symbol is in the range of a standing transition from the source. -/
def SpannedFrom : Prop :=
  ∃ u : Transition, u.Stands ts ∧ u.source.spelling = source ∧ ∃ g, u.guard = some g ∧ g.Spans x

end

/-- The edges of a state are those of the standing transitions from it. -/
structure State.Reflects {k : Kind} (s : State String k) (ts : List Transition) : Prop where
  unambiguous : Unambiguous s.conditional
  readable : ∀ t ∈ ts, ∃ guard, t.readGuard k = .ok guard
  edges : ∀ target guard, (⟨s.conditional, s.fallback.toList⟩ : Edges String k).Has target guard ↔
    ∃ t : Transition, t.Stands ts ∧ t.source.spelling = s.value ∧ t.target.spelling = target ∧
      t.readGuard k = .ok guard

namespace State.Reflects

variable {k : Kind} {s : State String k} {ts : List Transition} {t : Transition} {g : GuardExpr}
  {x : Symbol k}

lemma exists_edge (h : s.Reflects ts) (ht : t.Stands ts) (hsource : t.source.spelling = s.value)
    (hguard : t.guard = some g) :
    ∃ guard, g.read k = .ok guard ∧ ⟨t.target.spelling, guard⟩ ∈ s.conditional := by
  obtain ⟨guard, hread⟩ := h.readable t ht.mem
  have hsome : guard.isSome = true := by rw [Transition.isSome_of_readGuard hread, hguard]; rfl
  obtain ⟨guard, rfl⟩ := Option.isSome_iff_exists.mp hsome
  have hhas := (h.edges t.target.spelling (some guard)).mpr ⟨t, ht, hsource, rfl, hread⟩
  obtain ⟨g', hg', hread'⟩ := Transition.readGuard_eq_ok_some.mp hread
  obtain rfl : g = g' := Option.some.inj (hguard.symm.trans hg')
  exact ⟨guard, hread', hhas⟩

lemma exists_transition (h : s.Reflects ts) {e : Edge String k} (he : e ∈ s.conditional) :
    ∃ u : Transition, u.Stands ts ∧ u.source.spelling = s.value ∧
      ∃ g, u.guard = some g ∧ g.read k = .ok e.guard := by
  obtain ⟨u, hu, hsource, -, hread⟩ := (h.edges e.target (some e.guard)).mp he
  exact ⟨u, hu, hsource, Transition.readGuard_eq_ok_some.mp hread⟩

/-- Symbols that a standing transition lists lead to its target. -/
lemma next_of_lists (h : s.Reflects ts) (ht : t.Stands ts)
    (hsource : t.source.spelling = s.value) (hguard : t.guard = some g) (hx : g.Lists x)
    (exit : String) : s.next exit x = t.target.spelling := by
  obtain ⟨guard, hread, hmem⟩ := h.exists_edge ht hsource hguard
  obtain ⟨hrange, haccepts⟩ | ⟨-, haccepts⟩ := GuardExpr.read_cases hread
  · exact next_of_explicit h.unambiguous hmem hrange ((haccepts x).1.mpr hx)
  · exact absurd hx (haccepts x).2

/-- Symbols in the range of a standing transition lead to its target, if none lists them. -/
lemma next_of_spans (h : s.Reflects ts) (ht : t.Stands ts)
    (hsource : t.source.spelling = s.value) (hguard : t.guard = some g) (hx : g.Spans x)
    (hlists : ¬ ListedFrom ts s.value x) (exit : String) :
    s.next exit x = t.target.spelling := by
  obtain ⟨guard, hread, hmem⟩ := h.exists_edge ht hsource hguard
  obtain ⟨-, haccepts⟩ | ⟨hrange, haccepts⟩ := GuardExpr.read_cases hread
  · exact absurd hx (haccepts x).2
  · refine next_of_range h.unambiguous (fun e he hexplicit => ?_) hmem hrange
      ((haccepts x).1.mpr hx)
    obtain ⟨u, hu, husource, g', hg', hread'⟩ := h.exists_transition he
    obtain ⟨-, haccepts'⟩ | ⟨hrange', -⟩ := GuardExpr.read_cases hread'
    · by_contra hc
      exact hlists ⟨u, hu, husource, g', hg', (haccepts' x).1.mp (by simpa using hc)⟩
    · rw [hexplicit] at hrange'
      cases hrange'

/-- All other symbols lead to the target of a transition without a guard. -/
lemma next_of_unmatched (h : s.Reflects ts) (ht : t ∈ ts)
    (hsource : t.source.spelling = s.value) (hguard : t.guard = none)
    (hlists : ¬ ListedFrom ts s.value x) (hspans : ¬ SpannedFrom ts s.value x) (exit : String) :
    s.next exit x = t.target.spelling := by
  have hnone : ∀ e ∈ s.conditional, e.guard.accepts x = false := by
    intro e he
    obtain ⟨u, hu, husource, g', hg', hread'⟩ := h.exists_transition he
    by_contra hc
    have hx : e.guard.accepts x = true := by simpa using hc
    obtain ⟨-, haccepts⟩ | ⟨-, haccepts⟩ := GuardExpr.read_cases hread'
    · exact hlists ⟨u, hu, husource, g', hg', (haccepts x).1.mp hx⟩
    · exact hspans ⟨u, hu, husource, g', hg', (haccepts x).1.mp hx⟩
  have hfallback : t.target.spelling ∈ s.fallback.toList :=
    (h.edges t.target.spelling none).mpr ⟨t, Transition.stands_of_guard_eq_none ht hguard, hsource,
      rfl, Transition.readGuard_eq_ok_none.mpr hguard⟩
  rw [next_of_none hnone, Option.mem_toList.mp hfallback]
  rfl

end State.Reflects

/-- Every source of a built draft has its state in the model. -/
lemma Draft.Yields.exists_source {σ : Type} {k : Kind} [DecidableEq σ] {d : Draft σ k}
    {m : Model σ k} (h : d.Yields m) {s : σ} (hs : d.IsSource s) :
    ∃ t ∈ m.sources, t.value = s := by
  rcases hs with hinit | hstate
  · exact ⟨m.init, by simp [Model.sources], Option.some.inj (h.init.symm.trans hinit)⟩
  · rw [h.states] at hstate
    obtain ⟨t, ht, rfl⟩ := List.mem_map.mp hstate
    exact ⟨t, List.mem_cons_of_mem _ ht, rfl⟩

namespace Declaration

variable {d : Declaration} {m : Model String d.kind}

/-- The model of a declaration is built, and its states have the edges of the standing
transitions. -/
lemma model_eq_ok (h : d.model = .ok m) : m.Valid ∧
    (∀ t ∈ d.transitions, ∃ s ∈ m.sources, s.value = t.source.spelling) ∧
      ∀ s ∈ m.sources, s.Reflects d.transitions := by
  obtain ⟨dr, hdr, h⟩ := bind_eq_ok.mp h
  have hbuild := mapError_eq_ok.mp h
  have hreflects := reflects_draft hdr
  have hyields := hreflects.consistent.yields_of_build hbuild
  have hvalid : m.Valid := by
    obtain ⟨cs, rfl⟩ := hreflects.reached
    exact Model.Built.valid ⟨cs, hbuild⟩
  refine ⟨hvalid, fun t ht => hyields.exists_source (hreflects.ends t ht).1, fun s hs => ?_⟩
  exact ⟨hvalid.unambiguous s hs, hreflects.readable, hreflects.edges _ _ (hyields.edges s hs)⟩

lemma blueprint_eq_ok {b : Blueprint d.kind} (h : d.blueprint = .ok b) :
    ∃ m, d.model = .ok m ∧
      (Compiler.plan ⟨d.config, none⟩ m).result = .ok (b.numbering, b.plan) := by
  obtain ⟨m, hm, h⟩ := bind_eq_ok.mp h
  obtain ⟨⟨n, p⟩, hplan, h⟩ := bind_eq_ok.mp h
  obtain ⟨values, -, h⟩ := bind_eq_ok.mp h
  cases h
  exact ⟨m, hm, mapError_eq_ok.mp hplan⟩

end Declaration

/-! ### Code -/

namespace Blueprint

variable {k : Kind}

/-- From the number of its source, the symbol leads to the number of the transition's target. -/
def Takes (b : Blueprint k) (t : Transition) (x : Symbol k) : Prop :=
  ∀ i, b.numbering.value? i = some t.source.spelling →
    b.numbering.id? t.target.spelling = some ((Code.ofPlan b.plan).eval i x)

/-- Every standing transition takes effect: what it lists leads to its target, what is in its range
if nothing from the same source lists it, and everything that is left if it has no guard. -/
structure Follows (b : Blueprint k) (ts : List Transition) : Prop where
  numbered : ∀ t ∈ ts, t.source.spelling ∈ b.numbering.values
  lists : ∀ t : Transition, t.Stands ts → ∀ g, t.guard = some g → ∀ x, g.Lists x → b.Takes t x
  spans : ∀ t : Transition, t.Stands ts → ∀ g, t.guard = some g → ∀ x, g.Spans x →
    ¬ ListedFrom ts t.source.spelling x → b.Takes t x
  fallback : ∀ t ∈ ts, t.guard = none → ∀ x, ¬ ListedFrom ts t.source.spelling x →
    ¬ SpannedFrom ts t.source.spelling x → b.Takes t x

end Blueprint

namespace Declaration

variable {d : Declaration}

lemma follows_of_blueprint {b : Blueprint d.kind} (h : d.blueprint = .ok b) :
    b.Follows d.transitions := by
  obtain ⟨m, hm, hplan⟩ := blueprint_eq_ok h
  obtain ⟨hvalid, hsources, hreflects⟩ := model_eq_ok hm
  -- the code leads where the state leads
  have htakes : ∀ t ∈ d.transitions, ∀ x, (∀ s ∈ m.sources, s.value = t.source.spelling →
      s.next m.exit x = t.target.spelling) → b.Takes t x := by
    intro t ht x hnext i hi
    obtain ⟨s, hs, hvalue⟩ := hsources t ht
    have hne : i ≠ exitId := by
      rintro rfl
      rw [Numbering.value?, (Compiler.plan_eq_ok hplan).1] at hi
      have hexit : m.exit = s.value := (Option.some.inj hi).trans hvalue.symm
      exact hvalid.exit_not_source (hexit ▸ List.mem_map_of_mem hs)
    obtain ⟨s', hs', hvalue', br, hbr, hstate⟩ := Compiler.branch?_of_plan hplan hne hi
    rw [Code.eval_of_branch? hplan hne hbr, ← hnext s' hs' hvalue']
    exact Branch.id?_next_of_ofState hstate (hvalid.unambiguous s' hs')
      (Compiler.id?_exit_of_plan hplan) x
  refine ⟨fun t ht => ?_, fun t ht g hg x hx => ?_, fun t ht g hg x hx hlists => ?_,
    fun t ht hg x hlists hspans => ?_⟩
  · obtain ⟨s, hs, hvalue⟩ := hsources t ht
    rw [(Compiler.plan_eq_ok hplan).1, ← hvalue]
    exact List.mem_cons_of_mem _ (List.mem_map_of_mem hs)
  · refine htakes t ht.mem x fun s hs hvalue => ?_
    exact (hreflects s hs).next_of_lists ht hvalue.symm hg hx m.exit
  · refine htakes t ht.mem x fun s hs hvalue => ?_
    rw [← hvalue] at hlists
    exact (hreflects s hs).next_of_spans ht hvalue.symm hg hx hlists m.exit
  · refine htakes t ht x fun s hs hvalue => ?_
    rw [← hvalue] at hlists hspans
    exact (hreflects s hs).next_of_unmatched ht hvalue.symm hg hlists hspans m.exit

end Declaration

/-! ### Source text -/

lemma forall₂_of_gather {α : Type} {rs : List (Except (List Fault) α)} {as : List α}
    (h : gather rs = .ok as) : List.Forall₂ (fun r a => r = .ok a) rs as := by
  induction rs generalizing as with
  | nil =>
    cases h
    exact .nil
  | cons r rs ih =>
    simp only [gather] at h
    split at h
    · next a as' hrs =>
      cases h
      exact .cons rfl (ih hrs)
    · cases h
    · cases h
    · cases h

/-- The transitions that an item declares, one for each attribute with that name. -/
def DeclaredBy (ts : List Transition) (item : String) : Prop :=
  ∃ trees s, readTrees item = .ok trees ∧ Structure.ofTrees trees = .ok s ∧
    List.Forall₂ (fun a t => Transition.ofAttribute a = .ok t)
      (s.attributes.filter (·.isNamed "transition")) ts

lemma Declaration.ofParts_eq_ok {header : Header} {s : Structure} {d : Declaration}
    (h : ofParts header s = .ok d) :
    gather ((s.attributes.filter (·.isNamed "transition")).map Transition.ofAttribute)
        = .ok d.transitions ∧ d.header.init.spelling ≠ d.header.exit.spelling := by
  obtain ⟨⟨kind, symbolType⟩, -, h⟩ := bind_eq_ok.mp h
  obtain ⟨ts, hts, h⟩ := bind_eq_ok.mp h
  dsimp only at h
  split_ifs at h with _ _ hends
  all_goals cases h
  exact ⟨hts, hends⟩

lemma Declaration.ofSource_eq_ok {arguments item : String} {d : Declaration}
    (h : ofSource arguments item = .ok d) : ∃ trees header s, readTrees item = .ok trees ∧
      Structure.ofTrees trees = .ok s ∧ ofParts header s = .ok d := by
  obtain ⟨argumentTrees, -, h⟩ := bind_eq_ok.mp h
  obtain ⟨trees, htrees, h⟩ := bind_eq_ok.mp h
  obtain ⟨header, -, h⟩ := bind_eq_ok.mp (mapError_eq_ok.mp h)
  obtain ⟨s, hs, h⟩ := bind_eq_ok.mp h
  exact ⟨trees, header, s, htrees, mapError_eq_ok.mp hs, h⟩

lemma declaredBy_of_ofSource {arguments item : String} {d : Declaration}
    (h : Declaration.ofSource arguments item = .ok d) : DeclaredBy d.transitions item := by
  obtain ⟨trees, header, s, htrees, hs, h⟩ := Declaration.ofSource_eq_ok h
  exact ⟨trees, s, htrees, hs,
    List.forall₂_map_left_iff.mp (forall₂_of_gather (Declaration.ofParts_eq_ok h).1)⟩

/-- Every standing transition takes effect in the code of a machine. A text that is accepted
declares one transition for each attribute, and from the number of a transition's source the code
leads to the number of its target: for every symbol that the transition lists, for every symbol in
its range that no standing transition from the same source lists, and, if it has no guard, for every
symbol that no standing transition from the same source matches. The symbols are those that are read
from the literals. A single-precision literal that is rounded to another number than the nearest one
stands for that other number. -/
theorem expand_follows {arguments item text : String} (h : expand arguments item = .ok text) :
    ∃ (d : Declaration) (b : Blueprint d.kind), Declaration.ofSource arguments item = .ok d ∧
      d.blueprint = .ok b ∧ text = d.text b ∧ DeclaredBy d.transitions item ∧
        b.Follows d.transitions := by
  obtain ⟨d, hd, h⟩ := bind_eq_ok.mp h
  obtain ⟨b, hb, h⟩ := bind_eq_ok.mp h
  have hblueprint := mapError_eq_ok.mp hb
  cases h
  exact ⟨d, b, hd, hblueprint, rfl, declaredBy_of_ofSource hd,
    Declaration.follows_of_blueprint hblueprint⟩

/-- Arguments of a machine over bytes. -/
def doubledArguments : String := "state = u8, token = u8, init = 0, exit = 9"

/-- Two transitions with guards that go the same way. -/
def doubledItem : String :=
  "#[transition(from = 0, to = 1, on = 1)] #[transition(from = 0, to = 1, on = 2)] " ++
    "#[transition(from = 1, to = 9)] struct M;"

/-- The first of the transitions lists a symbol that does not lead to its target. -/
lemma doubled_spec : ∃ d ∈ (Declaration.ofSource doubledArguments doubledItem).toOption,
    ∃ b ∈ d.blueprint.toOption, ∃ t ∈ d.transitions, ∃ g ∈ t.guard, ∃ x ∈ g.listed d.kind,
      b.numbering.value? initId = some t.source.spelling ∧
        b.numbering.id? t.target.spelling ≠ some ((Code.ofPlan b.plan).eval initId x) := by
  decide +kernel

lemma expand_eq_ok {arguments item : String} {d : Declaration} {b : Blueprint d.kind}
    (hd : Declaration.ofSource arguments item = .ok d) (hb : d.blueprint = .ok b) :
    expand arguments item = .ok (d.text b) :=
  bind_eq_ok.mpr ⟨d, hd, bind_eq_ok.mpr ⟨b, mapError_eq_ok.mpr hb, rfl⟩⟩

theorem expand_follows_doubled :
    ∃ text, expand doubledArguments doubledItem = .ok text ∧
      ∃ (d : Declaration) (b : Blueprint d.kind),
        Declaration.ofSource doubledArguments doubledItem = .ok d ∧ d.blueprint = .ok b ∧
          text = d.text b ∧ DeclaredBy d.transitions doubledItem ∧ b.Follows d.transitions := by
  obtain ⟨d, hd, b, hb, -⟩ := doubled_spec
  have htext := expand_eq_ok (toOption_eq_some.mp hd) (toOption_eq_some.mp hb)
  exact ⟨d.text b, htext, expand_follows htext⟩

/-- Where two transitions with guards go the same way, what only the earlier one lists does not lead
to its target. -/
theorem earlier_guard_lost :
    ∃ (d : Declaration) (b : Blueprint d.kind),
      Declaration.ofSource doubledArguments doubledItem = .ok d ∧ d.blueprint = .ok b ∧
        expand doubledArguments doubledItem = .ok (d.text b) ∧
        ∃ t ∈ d.transitions, ∃ g, t.guard = some g ∧ ∃ x, g.Lists x ∧ ¬ b.Takes t x := by
  obtain ⟨d, hd, b, hb, t, ht, g, hg, x, hx, hvalue, hne⟩ := doubled_spec
  have hsource := toOption_eq_some.mp hd
  have hblueprint := toOption_eq_some.mp hb
  refine ⟨d, b, hsource, hblueprint, expand_eq_ok hsource hblueprint, t, ht, g, hg, x, ?_, ?_⟩
  · exact ⟨x, hx, Symbol.same_refl x⟩
  · exact fun htakes => hne (htakes initId hvalue)

end StateMachine
