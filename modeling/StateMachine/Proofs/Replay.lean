import StateMachine.Proofs.Compilation
import StateMachine.Proofs.Declaration

/-!
# The states of a declaration

The states of a declaration pass three stages: they are collected by spelling, declared one after
another in a draft, and found again by spelling once the plan has numbers for them. The order is the
same throughout: the exit, the initial state, and the others by their first mention. Declaring the
states never fails, and neither does finding them; adding the transitions fails at the first one
that leaves the exit or enters the initial state, unless a guard cannot be read before.
-/

namespace StateMachine

open Source

/-! ### First mentions -/

/-- The texts that are not known, in the order in which they are first mentioned. -/
structure ByFirstMention (known mentions listed : List String) : Prop where
  mem_iff : ∀ s, s ∈ listed ↔ s ∈ mentions ∧ s ∉ known
  ordered : listed.Pairwise fun s t => mentions.idxOf s < mentions.idxOf t

namespace ByFirstMention

variable {known mentions listed : List String} {s : String}

lemma nodup (h : ByFirstMention known mentions listed) : listed.Nodup := by
  apply h.ordered.imp
  rintro s t hlt rfl
  exact lt_irrefl _ hlt

lemma idxOf_append (h : ByFirstMention known mentions listed) {t : String} (ht : t ∈ listed) :
    (mentions ++ [s]).idxOf t = mentions.idxOf t :=
  List.idxOf_append_of_mem ((h.mem_iff t).mp ht).1

lemma ordered_append (h : ByFirstMention known mentions listed) :
    listed.Pairwise fun t u => (mentions ++ [s]).idxOf t < (mentions ++ [s]).idxOf u := by
  apply h.ordered.imp_of_mem
  intro t u ht hu hlt
  rw [h.idxOf_append ht, h.idxOf_append hu]
  exact hlt

lemma mention_again (h : ByFirstMention known mentions listed) (hs : s ∈ known ++ listed) :
    ByFirstMention known (mentions ++ [s]) listed := by
  refine ⟨fun t => ?_, h.ordered_append⟩
  rw [h.mem_iff, List.mem_append, List.mem_singleton]
  constructor
  · rintro ⟨ht, hknown⟩
    exact ⟨Or.inl ht, hknown⟩
  · rintro ⟨ht | rfl, hknown⟩
    · exact ⟨ht, hknown⟩
    · rcases List.mem_append.mp hs with hs | hs
      · exact absurd hs hknown
      · exact (h.mem_iff t).mp hs

lemma mention_new (h : ByFirstMention known mentions listed) (hs : s ∉ known ++ listed) :
    ByFirstMention known (mentions ++ [s]) (listed ++ [s]) := by
  rw [List.mem_append, not_or] at hs
  have hmentions : s ∉ mentions := fun hmem => hs.2 ((h.mem_iff s).mpr ⟨hmem, hs.1⟩)
  constructor
  · intro t
    rw [List.mem_append, List.mem_append, List.mem_singleton, h.mem_iff]
    constructor
    · rintro (⟨ht, hknown⟩ | rfl)
      · exact ⟨Or.inl ht, hknown⟩
      · exact ⟨Or.inr rfl, hs.1⟩
    · rintro ⟨ht | rfl, hknown⟩
      · exact Or.inl ⟨ht, hknown⟩
      · exact Or.inr rfl
  · apply List.pairwise_append.mpr
    refine ⟨h.ordered_append, List.pairwise_singleton _ _, fun t ht u hu => ?_⟩
    obtain rfl := List.mem_singleton.mp hu
    rw [h.idxOf_append ht, List.idxOf_append_of_notMem hmentions]
    exact Nat.lt_add_right _ (List.idxOf_lt_length_of_mem ((h.mem_iff t).mp ht).1)

end ByFirstMention

lemma addSpellings_append_singleton (known more : List Expr) (e : Expr) :
    addSpellings known (more ++ [e]) =
      if e.spelling ∈ (addSpellings known more).map Expr.spelling then addSpellings known more
      else addSpellings known more ++ [e] := by
  simp only [addSpellings, List.foldl_append, List.foldl_cons, List.foldl_nil, List.any_eq_true,
    decide_eq_true_eq, List.mem_map]

/-- Expressions are added behind those that are there, by their first mention. -/
lemma addSpellings_eq_append (known more : List Expr) :
    ∃ added, addSpellings known more = known ++ added ∧
      ByFirstMention (known.map Expr.spelling) (more.map Expr.spelling)
        (added.map Expr.spelling) := by
  induction more using List.reverseRecOn with
  | nil => exact ⟨[], by simp [addSpellings], ⟨by simp, .nil⟩⟩
  | append_singleton more e ih =>
    obtain ⟨added, heq, hadded⟩ := ih
    rw [addSpellings_append_singleton, heq, List.map_append, List.map_append, List.map_singleton]
    split_ifs with hmem
    · exact ⟨added, rfl, hadded.mention_again hmem⟩
    · refine ⟨added ++ [e], List.append_assoc .., ?_⟩
      rw [List.map_append]
      exact hadded.mention_new hmem

/-! ### Steps that do not fail -/

section

variable {ε α β : Type}

/-- If every step succeeds and keeps what the next one needs, all of them succeed. -/
lemma exists_foldlM_eq_ok {f : β → α → Except ε β} {P : List α → β → Prop} {b : β} {l : List α}
    (hb : P [] b)
    (hstep : ∀ l₁ a l₂, l = l₁ ++ a :: l₂ → ∀ b, P l₁ b → ∃ b', f b a = .ok b' ∧ P (l₁ ++ [a]) b') :
    ∃ b', l.foldlM f b = .ok b' ∧ P l b' := by
  induction l using List.reverseRecOn with
  | nil => exact ⟨b, rfl, hb⟩
  | append_singleton l a ih =>
    obtain ⟨c, hc, hP⟩ := ih fun l₁ a' l₂ hl => hstep l₁ a' (l₂ ++ [a]) (by simp [hl])
    obtain ⟨b', hb', hP'⟩ := hstep l a [] rfl c hP
    refine ⟨b', ?_, hP'⟩
    rw [List.foldlM_append]
    exact bind_eq_ok.mpr ⟨c, hc, by rw [List.foldlM_cons, hb']; rfl⟩

lemma mapM_eq_ok_of_forall₂ {f : α → Except ε β} {l : List α} {l' : List β}
    (h : List.Forall₂ (fun a b => f a = .ok b) l l') : l.mapM f = .ok l' := by
  induction h with
  | nil => rfl
  | cons ha _ ih =>
    rw [List.mapM_cons, ha, ih]
    rfl

end

/-! ### Drafts -/

namespace Draft

variable {σ : Type} {k : Kind} [DecidableEq σ] [Label σ] {dr : Draft σ k}

lemma edit_setInit_empty (s : σ) :
    ∃ dr : Draft σ k, Draft.empty.edit (.setInit s) = .ok dr ∧ dr.init = some s ∧
      dr.exit = none ∧ dr.states = [] :=
  ⟨_, rfl, rfl, rfl, rfl⟩

lemma edit_setExit {s : σ} (hinit : dr.init ≠ some s) (hexit : dr.exit = none)
    (hstates : s ∉ dr.states) :
    ∃ dr', dr.edit (.setExit s) = .ok dr' ∧ dr'.init = dr.init ∧ dr'.exit = some s ∧
      dr'.states = dr.states := by
  refine ⟨{ dr.withdrawExit with exit := some s }, ?_, by simp, rfl, by simp⟩
  rw [edit_eq_ok, attempt, setExit, if_neg (by simp [hexit]), if_neg hinit, if_neg hstates]
  rfl

lemma edit_addState {s : σ} (hinit : dr.init ≠ some s) (hexit : dr.exit ≠ some s)
    (hstates : s ∉ dr.states) :
    ∃ dr', dr.edit (.addState s) = .ok dr' ∧ dr'.init = dr.init ∧ dr'.exit = dr.exit ∧
      dr'.states = dr.states ++ [s] := by
  refine ⟨{ dr with states := dr.states ++ [s] }.ensureSource s, ?_, rfl, rfl, rfl⟩
  rw [edit_eq_ok, attempt, addState, if_neg hinit, if_neg hexit, if_neg hstates]
  rfl

/-- States that are new to a draft can be declared one after another. -/
lemma exists_foldlM_addState {es : List Expr} {dr : Draft String k}
    (hnew : ∀ e ∈ es, dr.init ≠ some e.spelling ∧ dr.exit ≠ some e.spelling)
    (hstates : (dr.states ++ es.map Expr.spelling).Nodup) :
    ∃ dr', es.foldlM (fun dr e => dr.edit (.addState e.spelling)) dr = .ok dr' ∧
      dr'.init = dr.init ∧ dr'.exit = dr.exit ∧ dr'.states = dr.states ++ es.map Expr.spelling := by
  induction es generalizing dr with
  | nil => exact ⟨dr, rfl, rfl, rfl, by simp⟩
  | cons e es ih =>
    obtain ⟨⟨hinit, hexit⟩, hnew⟩ := List.forall_mem_cons.mp hnew
    have hmem : e.spelling ∉ dr.states := fun hmem =>
      List.disjoint_of_nodup_append hstates hmem List.mem_cons_self
    obtain ⟨dr₁, hadd, hinit₁, hexit₁, hstates₁⟩ := edit_addState hinit hexit hmem
    rw [List.map_cons, List.append_cons, ← hstates₁] at hstates
    rw [← hinit₁, ← hexit₁] at hnew
    obtain ⟨dr', hfold, hinit', hexit', hstates'⟩ := ih hnew hstates
    refine ⟨dr', ?_, hinit'.trans hinit₁, hexit'.trans hexit₁, ?_⟩
    · rw [List.foldlM_cons, hadd]
      exact hfold
    · rw [hstates', hstates₁, List.append_assoc]
      rfl

lemma edit_addTransition_eq_error_iff (hd : dr.Consistent) {s t : σ} {g : Option (Guard k)}
    {e : Error} : dr.edit (.addTransition s t g) = .error e ↔
      ¬ dr.IsSource s ∧ e = .invalidState (Label.text s) .notASource ∨
        dr.IsSource s ∧ ¬ dr.IsTarget t ∧ e = .invalidState (Label.text t) .notATarget := by
  have hsource : (dr.edges.find? s).isNone = true ↔ ¬ dr.IsSource s := by
    rw [← hd.isSome_find?_iff, Option.isNone_iff_eq_none, Option.not_isSome_iff_eq_none]
  rw [edit, attempt, addTransition]
  split_ifs with hs ht
  · simp only [refuse, Except.error.injEq, hsource.mp hs, not_false_eq_true, false_and, true_and,
      or_false]
    exact eq_comm
  · have ht' : dr.IsTarget t := ht
    simp [accept, not_not.mp (mt hsource.mpr hs), ht']
  · have ht' : ¬ dr.IsTarget t := ht
    simp only [refuse, Except.error.injEq, not_not.mp (mt hsource.mpr hs), ht', not_true,
      not_false_eq_true, false_and, true_and, false_or]
    exact eq_comm

end Draft

/-! ### Declarations -/

namespace Declaration

/-- The states that the transitions name, sources before targets. -/
def mentions (d : Declaration) : List String :=
  d.transitions.flatMap fun t => [t.source.spelling, t.target.spelling]

/-- The transition leaves the exit or enters the initial state. -/
def Misplaced (d : Declaration) (t : Transition) : Prop :=
  t.source.spelling = d.header.exit.spelling ∨ t.target.spelling = d.header.init.spelling

/-- Why a misplaced transition is refused. -/
def misplacement (d : Declaration) (t : Transition) : Error :=
  if t.source.spelling = d.header.exit.spelling then
    .invalidState (Label.text t.source.spelling) .notASource
  else .invalidState (Label.text t.target.spelling) .notATarget

/-- All transitions before this one can be added, but it cannot. -/
def FailsAt (d : Declaration) (earlier : List Transition) (t : Transition) (fault : Fault) :
    Prop :=
  ∃ start dr, d.skeleton = .ok start ∧ earlier.foldlM d.addTransition start = .ok dr ∧
    d.addTransition dr t = .error fault

variable (d : Declaration)

lemma states_spec : d.states = d.header.exit :: d.header.init :: d.innerStates ∧
    ByFirstMention [d.header.exit.spelling, d.header.init.spelling] d.mentions
      (d.innerStates.map Expr.spelling) := by
  obtain ⟨added, heq, hadded⟩ := addSpellings_eq_append [d.header.exit, d.header.init]
    (d.transitions.flatMap fun t => [t.source, t.target])
  have hstates : d.states = d.header.exit :: d.header.init :: added := heq
  have hinner : d.innerStates = added := by rw [innerStates, hstates]; rfl
  rw [hinner]
  refine ⟨hstates, ?_⟩
  rw [List.map_flatMap] at hadded
  exact hadded

variable {d}

lemma nodup_spellings (hends : d.header.init.spelling ≠ d.header.exit.spelling) :
    (d.states.map Expr.spelling).Nodup := by
  obtain ⟨hstates, hinner⟩ := d.states_spec
  have hnot : ∀ s ∈ [d.header.exit.spelling, d.header.init.spelling],
      s ∉ d.innerStates.map Expr.spelling := fun s hs hmem => ((hinner.mem_iff s).mp hmem).2 hs
  rw [hstates, List.map_cons, List.map_cons, List.nodup_cons, List.nodup_cons, List.mem_cons,
    not_or]
  refine ⟨⟨hends.symm, hnot _ ?_⟩, hnot _ ?_, hinner.nodup⟩
  · exact List.mem_cons_self
  · exact List.mem_cons_of_mem _ List.mem_cons_self

end Declaration

/-- The draft has the ends and the states of a declaration. -/
structure Draft.HasPartsOf {k : Kind} (dr : Draft String k) (d : Declaration) : Prop where
  init : dr.init = some d.header.init.spelling
  exit : dr.exit = some d.header.exit.spelling
  states : dr.states = d.innerStates.map Expr.spelling

namespace Draft.HasPartsOf

variable {k : Kind} {dr : Draft String k} {d : Declaration} {s : String}

lemma mem_states_iff (h : dr.HasPartsOf d) (hs : s ∈ d.mentions) :
    s ∈ dr.states ↔ s ≠ d.header.exit.spelling ∧ s ≠ d.header.init.spelling := by
  rw [h.states, d.states_spec.2.mem_iff]
  simp [hs]

variable (hends : d.header.init.spelling ≠ d.header.exit.spelling)

include hends

/-- All states but the exit are sources. -/
lemma isSource_iff (h : dr.HasPartsOf d) (hs : s ∈ d.mentions) :
    dr.IsSource s ↔ s ≠ d.header.exit.spelling := by
  rw [IsSource, h.init, h.mem_states_iff hs, Option.some.injEq]
  constructor
  · rintro (rfl | hne)
    · exact hends
    · exact hne.1
  · intro hne
    by_cases hinit : d.header.init.spelling = s
    · exact Or.inl hinit
    · exact Or.inr ⟨hne, Ne.symm hinit⟩

/-- All states but the initial one are targets. -/
lemma isTarget_iff (h : dr.HasPartsOf d) (hs : s ∈ d.mentions) :
    dr.IsTarget s ↔ s ≠ d.header.init.spelling := by
  rw [IsTarget, h.exit, h.mem_states_iff hs, Option.some.injEq]
  constructor
  · rintro (rfl | hne)
    · exact hends.symm
    · exact hne.2
  · intro hne
    by_cases hexit : d.header.exit.spelling = s
    · exact Or.inl hexit
    · exact Or.inr ⟨Ne.symm hexit, hne⟩

end Draft.HasPartsOf

namespace Declaration

variable {d : Declaration} {ts : List Transition} {t : Transition}

lemma mem_mentions (ht : t ∈ d.transitions) :
    t.source.spelling ∈ d.mentions ∧ t.target.spelling ∈ d.mentions := by
  constructor
  · exact List.mem_flatMap.mpr ⟨t, ht, List.mem_cons_self⟩
  · exact List.mem_flatMap.mpr ⟨t, ht, List.mem_cons_of_mem _ List.mem_cons_self⟩

/-- The draft has the states of the declaration and the edges of transitions added so far. -/
structure Replayed (d : Declaration) (ts : List Transition) (dr : Draft String d.kind) : Prop where
  reflects : dr.Reflects ts
  parts : dr.HasPartsOf d

lemma Replayed.addTransition {dr dr' : Draft String d.kind} (hdr : d.Replayed ts dr)
    (h : d.addTransition dr t = .ok dr') : d.Replayed (ts ++ [t]) dr' := by
  refine ⟨reflects_addTransition hdr.reflects h, ?_⟩
  rw [addTransition_eq] at h
  obtain ⟨guard, -, hedit⟩ := bind_eq_ok.mp h
  obtain ⟨-, -, rfl⟩ := Draft.edit_addTransition_eq_ok (mapError_eq_ok.mp hedit)
  exact ⟨hdr.parts.init, hdr.parts.exit, hdr.parts.states⟩

lemma Replayed.foldlM {start dr : Draft String d.kind} (hstart : d.Replayed [] start)
    (h : ts.foldlM d.addTransition start = .ok dr) : d.Replayed ts dr :=
  foldlM_induction h hstart fun _ _ _ _ => Replayed.addTransition

variable (hends : d.header.init.spelling ≠ d.header.exit.spelling)

include hends

/-- No state of a declaration stands in the way of another. -/
lemma exists_skeleton : ∃ start, d.skeleton = .ok start ∧ d.Replayed [] start := by
  obtain ⟨d₁, h₁, hinit₁, hexit₁, hstates₁⟩ :=
    Draft.edit_setInit_empty (k := d.kind) d.header.init.spelling
  obtain ⟨d₂, h₂, hinit₂, hexit₂, hstates₂⟩ :=
    Draft.edit_setExit (s := d.header.exit.spelling) (by simpa [hinit₁] using hends) hexit₁
      (by simp [hstates₁])
  obtain ⟨-, hinner⟩ := d.states_spec
  have hnew : ∀ e ∈ d.innerStates, d₂.init ≠ some e.spelling ∧ d₂.exit ≠ some e.spelling := by
    intro e he
    have hknown := ((hinner.mem_iff _).mp (List.mem_map_of_mem he)).2
    simp only [List.mem_cons, List.not_mem_nil, or_false, not_or] at hknown
    rw [hinit₂, hinit₁, hexit₂, Ne, Ne, Option.some.injEq, Option.some.injEq]
    exact ⟨Ne.symm hknown.2, Ne.symm hknown.1⟩
  rw [hstates₁] at hstates₂
  obtain ⟨start, hstart, hinit, hexit, hstates⟩ :=
    Draft.exists_foldlM_addState hnew (by simpa [hstates₂] using hinner.nodup)
  have hskeleton : d.skeleton = .ok start :=
    bind_eq_ok.mpr ⟨d₁, h₁, bind_eq_ok.mpr ⟨d₂, h₂, hstart⟩⟩
  refine ⟨start, hskeleton, reflects_skeleton hskeleton, ?_, ?_, ?_⟩
  · rw [hinit, hinit₂, hinit₁]
  · rw [hexit, hexit₂]
  · rw [hstates, hstates₂, List.nil_append]

/-- A transition between states of the declaration is refused only where it is misplaced. -/
lemma addTransition_eq_error_iff {dr : Draft String d.kind} (hdr : d.Replayed ts dr)
    (ht : t ∈ d.transitions) {guard : Option (Guard d.kind)}
    (hguard : t.readGuard d.kind = .ok guard) {fault : Fault} :
    d.addTransition dr t = .error fault ↔
      d.Misplaced t ∧ fault = .model (d.misplacement t) := by
  obtain ⟨hsource, htarget⟩ := mem_mentions ht
  rw [addTransition_eq, hguard]
  change (dr.edit _).mapError Fault.model = .error fault ↔ _
  simp only [mapError_eq_error, Draft.edit_addTransition_eq_error_iff hdr.reflects.consistent,
    hdr.parts.isSource_iff hends hsource, hdr.parts.isTarget_iff hends htarget, Misplaced,
    misplacement, not_not]
  by_cases hexit : t.source.spelling = d.header.exit.spelling
  · simp [hexit, eq_comm]
  · simp [hexit, eq_comm]

/-- Transitions can be added up to the first that cannot be read or is misplaced. -/
lemma exists_foldlM_addTransition_iff {start : Draft String d.kind} (hstart : d.Replayed [] start)
    (hts : ∀ t ∈ ts, t ∈ d.transitions) :
    (∃ dr, ts.foldlM d.addTransition start = .ok dr) ↔
      ∀ t ∈ ts, (∃ guard, t.readGuard d.kind = .ok guard) ∧ ¬ d.Misplaced t := by
  constructor
  · rintro ⟨dr, hdr⟩ t ht
    obtain ⟨hreflects, hparts⟩ := hstart.foldlM hdr
    obtain ⟨hsource, htarget⟩ := mem_mentions (hts t ht)
    refine ⟨hreflects.readable t ht, not_or.mpr ⟨?_, ?_⟩⟩
    · exact (hparts.isSource_iff hends hsource).mp (hreflects.ends t ht).1
    · exact (hparts.isTarget_iff hends htarget).mp (hreflects.ends t ht).2
  · intro hts'
    -- a step that is not refused keeps what the next step needs
    have hstep : ∀ earlier t later, ts = earlier ++ t :: later → ∀ dr, d.Replayed earlier dr →
        ∃ dr', d.addTransition dr t = .ok dr' ∧ d.Replayed (earlier ++ [t]) dr' := by
      intro earlier t later hsplit dr hdr
      have ht : t ∈ ts := by simp [hsplit]
      obtain ⟨⟨guard, hguard⟩, hplaced⟩ := hts' t ht
      cases hadd : d.addTransition dr t with
      | error fault =>
        exact absurd ((addTransition_eq_error_iff hends hdr (hts t ht) hguard).mp hadd).1 hplaced
      | ok dr' => exact ⟨dr', rfl, hdr.addTransition hadd⟩
    obtain ⟨dr, hdr, -⟩ := exists_foldlM_eq_ok hstart hstep
    exact ⟨dr, hdr⟩

/-- Adding transitions fails at the first that is misplaced. -/
lemma failsAt_iff {earlier later : List Transition} (hsplit : d.transitions = earlier ++ t :: later)
    (hread : ∀ u ∈ earlier ++ [t], ∃ guard, u.readGuard d.kind = .ok guard) {fault : Fault} :
    d.FailsAt earlier t fault ↔ ((∀ u ∈ earlier, ¬ d.Misplaced u) ∧ d.Misplaced t) ∧
      fault = .model (d.misplacement t) := by
  obtain ⟨hearlier, hread⟩ := List.forall_mem_append.mp hread
  obtain ⟨guard, hguard⟩ := hread t List.mem_cons_self
  have hmem : ∀ u ∈ earlier, u ∈ d.transitions := fun u hu => by simp [hsplit, hu]
  have ht : t ∈ d.transitions := by simp [hsplit]
  obtain ⟨start, hstart, hreplayed⟩ := exists_skeleton hends
  have hiff := exists_foldlM_addTransition_iff hends hreplayed hmem
  constructor
  · rintro ⟨start', dr, hstart', hdr, hfault⟩
    obtain rfl : start = start' := Except.ok.inj (hstart.symm.trans hstart')
    obtain ⟨hmisplaced, rfl⟩ :=
      (addTransition_eq_error_iff hends (hreplayed.foldlM hdr) ht hguard).mp hfault
    exact ⟨⟨fun u hu => (hiff.mp ⟨dr, hdr⟩ u hu).2, hmisplaced⟩, rfl⟩
  · rintro ⟨⟨hplaced, hmisplaced⟩, rfl⟩
    obtain ⟨dr, hdr⟩ := hiff.mpr fun u hu => ⟨hearlier u hu, hplaced u hu⟩
    refine ⟨start, dr, hstart, hdr, ?_⟩
    exact (addTransition_eq_error_iff hends (hreplayed.foldlM hdr) ht hguard).mpr ⟨hmisplaced, rfl⟩

lemma exists_draft_iff : (∃ dr, d.draft = .ok dr) ↔
    ∀ t ∈ d.transitions, (∃ guard, t.readGuard d.kind = .ok guard) ∧ ¬ d.Misplaced t := by
  obtain ⟨start, hstart, hreplayed⟩ := exists_skeleton hends
  rw [← exists_foldlM_addTransition_iff hends hreplayed fun _ => id]
  have hskeleton : d.skeleton.mapError Fault.model = .ok start := mapError_eq_ok.mpr hstart
  constructor
  · rintro ⟨dr, hdr⟩
    obtain ⟨start', hstart', hdr⟩ := bind_eq_ok.mp hdr
    obtain rfl : start = start' := Except.ok.inj (hskeleton.symm.trans hstart')
    obtain ⟨dr', hfold, -⟩ := bind_eq_ok.mp hdr
    exact ⟨dr', hfold⟩
  · rintro ⟨dr, hdr⟩
    exact ⟨_, bind_eq_ok.mpr ⟨start, hskeleton, bind_eq_ok.mpr ⟨dr, hdr, rfl⟩⟩⟩

lemma hasPartsOf_draft {dr : Draft String d.kind} (h : d.draft = .ok dr) : dr.HasPartsOf d := by
  obtain ⟨start, hstart, hreplayed⟩ := exists_skeleton hends
  obtain ⟨start', hstart', h⟩ := bind_eq_ok.mp h
  obtain rfl : start = start' := Except.ok.inj (hstart.symm.trans (mapError_eq_ok.mp hstart'))
  obtain ⟨dr', hfold, h⟩ := bind_eq_ok.mp h
  have hparts := (hreplayed.foldlM hfold).parts
  -- the last edit only sets a flag
  cases Draft.edit_eq_ok.mp (mapError_eq_ok.mp h)
  exact ⟨hparts.init, hparts.exit, hparts.states⟩

/-- The model has the states of the declaration, in its order. -/
lemma labels_of_model {m : Model String d.kind} (h : d.model = .ok m) :
    m.labels = d.states.map Expr.spelling := by
  obtain ⟨dr, hdr, h⟩ := bind_eq_ok.mp h
  have hparts := hasPartsOf_draft hends hdr
  have hyields := (reflects_draft hdr).consistent.yields_of_build (mapError_eq_ok.mp h)
  have hinit : m.init.value = d.header.init.spelling :=
    Option.some.inj (hyields.init.symm.trans hparts.init)
  have hexit : m.exit = d.header.exit.spelling :=
    Option.some.inj (hyields.exit.symm.trans hparts.exit)
  have hstates : m.states.map State.value = d.innerStates.map Expr.spelling :=
    hyields.states.symm.trans hparts.states
  rw [d.states_spec.1, Model.labels, Model.sources, List.map_cons, List.map_cons, List.map_cons,
    hinit, hexit, hstates]

lemma mapM_requireState : (d.states.map Expr.spelling).mapM d.requireState = .ok d.states := by
  apply mapM_eq_ok_of_forall₂
  apply List.forall₂_map_left_iff.mpr
  apply List.forall₂_same.mpr
  intro e he
  rw [requireState, state?, find?_eq_some_of_nodup_map (nodup_spellings hends) he]

omit hends in
lemma blueprint_eq_error_of_failsAt {earlier later : List Transition} {fault : Fault}
    (hsplit : d.transitions = earlier ++ t :: later) (h : d.FailsAt earlier t fault) :
    d.blueprint = .error fault := by
  obtain ⟨start, dr, hstart, hdr, hfault⟩ := h
  have hfold : d.transitions.foldlM d.addTransition start = .error fault := by
    rw [hsplit, List.foldlM_append]
    refine bind_eq_error.mpr (Or.inr ⟨dr, hdr, ?_⟩)
    rw [List.foldlM_cons]
    exact bind_eq_error.mpr (Or.inl hfault)
  have hdraft : d.draft = .error fault :=
    bind_eq_error.mpr (Or.inr ⟨start, mapError_eq_ok.mpr hstart, bind_eq_error.mpr (Or.inl hfold)⟩)
  exact bind_eq_error.mpr (Or.inl (bind_eq_error.mpr (Or.inl hdraft)))

end Declaration

/-! ### States as they are written -/

namespace Declaration

/-- The function that lists the states of a machine, as it is written. -/
def statesFunction (d : Declaration) (spellings : List String) : List String :=
  [ "pub fn states () -> :: std :: vec :: Vec < " ++ d.header.state.spelling ++ " >",
    braced [":: std :: vec ! [" ++ " , ".intercalate spellings ++ "]"] ]

/-- The states of a machine are written in the order of their numbers. -/
structure WritesStates (d : Declaration) (b : Blueprint d.kind) : Prop where
  values_eq : b.values = d.header.exit :: d.header.init :: d.innerStates
  nodup : (b.values.map Expr.spelling).Nodup
  numbered : ∀ i, b.numbering.value? i = (b.values[i.toNat]?).map Expr.spelling
  /-- A number other than that of the exit has the branch of the state that is spelled so. -/
  planned : ∃ m, d.model = .ok m ∧ m.exit = d.header.exit.spelling ∧
    m.init.value = d.header.init.spelling ∧ b.plan.branches.length = b.values.length ∧
      ∀ i e, i ≠ exitId → b.values[i.toNat]? = some e → ∃ s ∈ m.sources, s.value = e.spelling ∧
        ∃ br, b.plan.branch? i = some br ∧ (Branch.ofState d.config b.numbering s).result = .ok br
  written : d.statesFunction (b.values.map Expr.spelling) <:+: d.constructors b

lemma statesFunction_infix (d : Declaration) (b : Blueprint d.kind) :
    d.statesFunction (b.values.map Expr.spelling) <:+: d.constructors b :=
  ⟨(d.constructors b).take 5, (d.constructors b).drop 7, rfl⟩

variable {d : Declaration}

lemma writesStates_of_blueprint (hends : d.header.init.spelling ≠ d.header.exit.spelling)
    {b : Blueprint d.kind} (h : d.blueprint = .ok b) : d.WritesStates b := by
  obtain ⟨m, hm, h⟩ := bind_eq_ok.mp h
  obtain ⟨⟨n, p⟩, hplan, h⟩ := bind_eq_ok.mp h
  obtain ⟨values, hvalues, h⟩ := bind_eq_ok.mp h
  cases h
  have hplan := mapError_eq_ok.mp hplan
  have hlabels := labels_of_model hends hm
  have hn : n.values = d.states.map Expr.spelling := (Compiler.plan_eq_ok hplan).1.trans hlabels
  obtain rfl : d.states = values := by
    rw [hn, mapM_requireState hends] at hvalues
    exact Except.ok.inj hvalues
  have hnumbered : ∀ i : StateId, n.value? i = (d.states[i.toNat]?).map Expr.spelling := by
    intro i
    rw [Numbering.value?, hn, List.getElem?_map]
  refine ⟨d.states_spec.1, nodup_spellings hends, hnumbered, ⟨m, hm, ?_, ?_, ?_, ?_⟩, ?_⟩
  · rw [d.states_spec.1] at hlabels
    exact (List.cons.inj hlabels).1
  · rw [d.states_spec.1] at hlabels
    exact (List.cons.inj (List.cons.inj hlabels).2).1
  · rw [Compiler.length_branches_of_plan hplan, ← Model.length_labels, hlabels, List.length_map]
  · intro i e hi he
    have hvalue : n.value? i = some e.spelling := by rw [hnumbered, he]; rfl
    exact Compiler.branch?_of_plan hplan hi hvalue
  · exact d.statesFunction_infix _

/-- The states of a declaration are listed, replayed and written in one order. Those other than the
ends are listed once each, by their first mention. Setting the ends and declaring the states never
fails, and every number of a plan stands for a state that is found by its spelling. Adding the
transitions fails at the first one that leaves the exit or enters the initial state, and with it the
whole declaration; it succeeds if there is none and all guards can be read. If there is a blueprint,
the states are written as the exit, the initial state and the others in that order, without
repetition and each where its number in the plan says. -/
theorem states_keep_order (d : Declaration)
    (hends : d.header.init.spelling ≠ d.header.exit.spelling) :
    ByFirstMention [d.header.exit.spelling, d.header.init.spelling] d.mentions
        (d.innerStates.map Expr.spelling) ∧
      (∃ start, d.skeleton = .ok start ∧ start.HasPartsOf d) ∧
      (∀ (c : Compiler) m n p, d.model = .ok m → (c.plan m).result = .ok (n, p) →
        n.values.mapM d.requireState = .ok d.states) ∧
      (∀ earlier t later, d.transitions = earlier ++ t :: later →
        (∀ u ∈ earlier ++ [t], ∃ guard, u.readGuard d.kind = .ok guard) →
          ((∃ fault, d.FailsAt earlier t fault) ↔
            (∀ u ∈ earlier, ¬ d.Misplaced u) ∧ d.Misplaced t) ∧
          ∀ fault, d.FailsAt earlier t fault →
            fault = .model (d.misplacement t) ∧ d.blueprint = .error fault) ∧
      ((∃ dr, d.draft = .ok dr) ↔
        ∀ t ∈ d.transitions, (∃ guard, t.readGuard d.kind = .ok guard) ∧ ¬ d.Misplaced t) ∧
      ∀ b, d.blueprint = .ok b → d.WritesStates b := by
  refine ⟨d.states_spec.2, ?_, ?_, ?_, exists_draft_iff hends, fun b hb => ?_⟩
  · obtain ⟨start, hstart, hreplayed⟩ := exists_skeleton hends
    exact ⟨start, hstart, hreplayed.parts⟩
  · intro c m n p hm hplan
    rw [(Compiler.plan_eq_ok hplan).1, labels_of_model hends hm, mapM_requireState hends]
  · intro earlier t later hsplit hread
    refine ⟨?_, fun fault hfault => ?_⟩
    · simp only [failsAt_iff hends hsplit hread, exists_and_left, exists_eq, and_true]
    · exact ⟨((failsAt_iff hends hsplit hread).mp hfault).2,
        blueprint_eq_error_of_failsAt hsplit hfault⟩
  · exact writesStates_of_blueprint hends hb

/-- A declaration that is read has two different ends. -/
lemma ends_ne_of_ofSource {arguments item : String} (h : ofSource arguments item = .ok d) :
    d.header.init.spelling ≠ d.header.exit.spelling := by
  obtain ⟨trees, header, s, -, -, h⟩ := ofSource_eq_ok h
  exact (ofParts_eq_ok h).2

/-- Transitions that mention the larger state first. -/
def detourItem : String :=
  "#[transition(from = 0, to = 2)] #[transition(from = 2, to = 1, on = 1)] " ++
    "#[transition(from = 1, to = 9)] struct M;"

theorem states_keep_order_detour :
    ∃ (d : Declaration) (b : Blueprint d.kind), ofSource doubledArguments detourItem = .ok d ∧
      d.header.init.spelling ≠ d.header.exit.spelling ∧ d.blueprint = .ok b ∧
        b.values.map Expr.spelling = ["9", "0", "2", "1"] ∧ d.WritesStates b ∧
          ByFirstMention [d.header.exit.spelling, d.header.init.spelling] d.mentions
            (d.innerStates.map Expr.spelling) := by
  have hdetour : ∃ d ∈ (ofSource doubledArguments detourItem).toOption,
      ∃ b ∈ d.blueprint.toOption, b.values.map Expr.spelling = ["9", "0", "2", "1"] := by
    decide +kernel
  obtain ⟨d, hd, b, hb, hvalues⟩ := hdetour
  have hends := ends_ne_of_ofSource (toOption_eq_some.mp hd)
  have hb := toOption_eq_some.mp hb
  obtain ⟨hlisted, -, -, -, -, hwritten⟩ := states_keep_order d hends
  exact ⟨d, b, toOption_eq_some.mp hd, hends, hb, hvalues, hwritten b hb, hlisted⟩

end Declaration

end StateMachine
