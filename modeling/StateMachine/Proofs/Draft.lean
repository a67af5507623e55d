import StateMachine.Proofs.Validation

/-!
# What edits keep

Whatever edits and builds are asked of a draft, no state ever has two parts, exactly the sources
have an entry in the table of edges, and every edge leads to a declared state or to the exit, at
most once for each kind of edge. What cannot be done leaves the draft as it was. A model is *built*
if it comes out of such a history; its labels are then pairwise different and its edges
unambiguous.
-/

namespace StateMachine

variable {σ : Type} {k : Kind}

/-! ### Edges of one source -/

namespace Edges

/-- Edges to given targets, of each kind at most one to a target. -/
structure Tidy (P : σ → Prop) (e : Edges σ k) : Prop where
  targets : ∀ t ∈ e.targets, P t
  conditional_nodup : (e.conditional.map Edge.target).Nodup
  unconditional_nodup : e.unconditional.Nodup

variable {P Q : σ → Prop} {e : Edges σ k}

lemma tidy_empty : (Edges.empty : Edges σ k).Tidy P :=
  ⟨by simp [Edges.empty, Edges.targets], by simp [Edges.empty], by simp [Edges.empty]⟩

lemma Tidy.mono (he : e.Tidy P) (h : ∀ t ∈ e.targets, P t → Q t) : e.Tidy Q :=
  ⟨fun t ht => h t ht (he.targets t ht), he.conditional_nodup, he.unconditional_nodup⟩

variable [DecidableEq σ]

lemma Tidy.dropConditional (he : e.Tidy P) (t : σ) : (e.dropConditional t).Tidy P where
  targets := by
    intro u hu
    refine he.targets u ?_
    simp only [Edges.targets, Edges.dropConditional, List.mem_append, List.mem_map,
      List.mem_filter] at hu ⊢
    rcases hu with ⟨c, ⟨hc, -⟩, rfl⟩ | hu
    · exact Or.inl ⟨c, hc, rfl⟩
    · exact Or.inr hu
  conditional_nodup := he.conditional_nodup.sublist (List.filter_sublist.map _)
  unconditional_nodup := he.unconditional_nodup

lemma Tidy.dropUnconditional (he : e.Tidy P) (t : σ) : (e.dropUnconditional t).Tidy P where
  targets := by
    intro u hu
    refine he.targets u ?_
    simp only [Edges.targets, Edges.dropUnconditional, List.mem_append, List.mem_filter] at hu ⊢
    rcases hu with hu | ⟨hu, -⟩
    · exact Or.inl hu
    · exact Or.inr hu
  conditional_nodup := he.conditional_nodup
  unconditional_nodup := he.unconditional_nodup.sublist List.filter_sublist

lemma not_mem_targets_dropTarget (e : Edges σ k) (t : σ) : t ∉ (e.dropTarget t).targets := by
  simp [Edges.targets, Edges.dropTarget, Edges.dropConditional, Edges.dropUnconditional]

/-- Dropping a target leaves edges to the others. -/
lemma Tidy.dropTarget (he : e.Tidy P) (t : σ) :
    (e.dropTarget t).Tidy fun u => P u ∧ u ≠ t := by
  refine ((he.dropConditional t).dropUnconditional t).mono fun u hu hP => ⟨hP, ?_⟩
  rintro rfl
  exact not_mem_targets_dropTarget e u hu

/-- A guard is put on an edge to the target, which is a new one only if there was none. -/
lemma targets_putGuard (t : σ) (g : Guard k) (cs : List (Edge σ k)) :
    (putGuard t g cs).map Edge.target =
      if t ∈ cs.map Edge.target then cs.map Edge.target else cs.map Edge.target ++ [t] := by
  induction cs with
  | nil => simp [putGuard]
  | cons c cs ih =>
    rw [putGuard]
    split_ifs with hc hmem hmem
    · simp [hc]
    · simp [hc] at hmem
    · rw [if_pos (by simpa [Ne.symm hc] using hmem)] at ih
      simp [ih]
    · rw [if_neg (by simpa [Ne.symm hc] using hmem)] at ih
      simp [ih]

lemma Tidy.addConditional (he : e.Tidy P) {t : σ} (ht : P t) (g : Guard k) :
    (e.addConditional t g).Tidy P := by
  have htargets := targets_putGuard t g e.conditional
  split_ifs at htargets with hmem
  · -- only the guard of an edge is replaced
    refine ⟨?_, by rw [Edges.addConditional, htargets]; exact he.conditional_nodup,
      he.unconditional_nodup⟩
    rw [Edges.targets, Edges.addConditional, htargets]
    exact he.targets
  · refine ⟨?_, ?_, he.unconditional_nodup⟩
    · intro u hu
      simp only [Edges.targets, Edges.addConditional, htargets, List.mem_append,
        List.mem_singleton] at hu
      rcases hu with (hu | rfl) | hu
      · exact he.targets u (List.mem_append_left _ hu)
      · exact ht
      · exact he.targets u (List.mem_append_right _ hu)
    · rw [Edges.addConditional, htargets]
      exact List.nodup_append_comm.mp (List.nodup_cons.mpr ⟨hmem, he.conditional_nodup⟩)

lemma Tidy.addUnconditional (he : e.Tidy P) {t : σ} (ht : P t) : (e.addUnconditional t).Tidy P := by
  rw [Edges.addUnconditional]
  split_ifs with hmem
  · exact he
  · refine ⟨?_, he.conditional_nodup, ?_⟩
    · intro u hu
      simp only [Edges.targets, List.mem_append, List.mem_singleton] at hu
      rcases hu with hu | hu | rfl
      · exact he.targets u (List.mem_append_left _ hu)
      · exact he.targets u (List.mem_append_right _ hu)
      · exact ht
    · exact List.nodup_append_comm.mp (List.nodup_cons.mpr ⟨hmem, he.unconditional_nodup⟩)

lemma Tidy.add (he : e.Tidy P) {t : σ} (ht : P t) (g : Option (Guard k)) : (e.add t g).Tidy P := by
  cases g with
  | some g => exact he.addConditional ht g
  | none => exact he.addUnconditional ht

end Edges

/-! ### Drafts -/

namespace Draft

/-- All states that have a part, each as often as it has one. -/
def roles (d : Draft σ k) : List σ := d.init.toList ++ (d.exit.toList ++ d.states)

/-- Edges may lead from the initial state and from declared states. -/
def IsSource (d : Draft σ k) (s : σ) : Prop := d.init = some s ∨ s ∈ d.states

/-- Edges may lead to declared states and to the exit. -/
def IsTarget (d : Draft σ k) (t : σ) : Prop := d.exit = some t ∨ t ∈ d.states

lemma nodup_states {d : Draft σ k} (h : d.roles.Nodup) : d.states.Nodup :=
  h.of_append_right.of_append_right

/-- The initial state is not a declared one. -/
lemma not_mem_states_of_init {d : Draft σ k} (h : d.roles.Nodup) {s : σ} (hs : d.init = some s) :
    s ∉ d.states := by
  rw [roles, hs] at h
  exact fun hmem => (List.nodup_cons.mp h).1 (List.mem_append_right d.exit.toList hmem)

/-- No target is the initial state. -/
lemma init_ne_of_isTarget {d : Draft σ k} (h : d.roles.Nodup) {t : σ} (ht : d.IsTarget t) :
    d.init ≠ some t := by
  intro hinit
  rcases ht with hexit | hmem
  · rw [roles, hinit, hexit] at h
    simp at h
  · exact not_mem_states_of_init h hinit hmem

variable [DecidableEq σ]

/-- What holds of a draft at all times. -/
structure Consistent (d : Draft σ k) : Prop where
  /-- No state has two parts. -/
  roles_nodup : d.roles.Nodup
  /-- Exactly the sources have an entry in the table of edges. -/
  isSome_find?_iff : ∀ s, (d.edges.find? s).isSome = true ↔ d.IsSource s
  /-- Edges lead to targets, of each kind at most one to each. -/
  tidy : ∀ s e, d.edges.find? s = some e → e.Tidy d.IsTarget

lemma consistent_empty : (Draft.empty : Draft σ k).Consistent where
  roles_nodup := by simp [Draft.empty, roles]
  isSome_find?_iff := by simp [Draft.empty, IsSource]
  tidy := by simp [Draft.empty]

namespace Consistent

variable {d d' : Draft σ k}

lemma find?_eq_none (hd : d.Consistent) {s : σ} (hs : ¬ d.IsSource s) : d.edges.find? s = none := by
  rw [← Option.not_isSome_iff_eq_none, hd.isSome_find?_iff]
  exact hs

/-- Parts may be given away as long as no source is involved. -/
lemma of_edges_eq (hd : d.Consistent) (hroles : d'.roles.Nodup) (hedges : d'.edges = d.edges)
    (hsource : ∀ s, d'.IsSource s ↔ d.IsSource s) (htarget : ∀ t, d.IsTarget t → d'.IsTarget t) :
    d'.Consistent where
  roles_nodup := hroles
  isSome_find?_iff s := by rw [hedges, hd.isSome_find?_iff, hsource]
  tidy s e he := by
    rw [hedges] at he
    exact (hd.tidy s e he).mono fun t _ => htarget t

/-- A new source starts without edges. -/
lemma of_edges_ensure (hd : d.Consistent) (hroles : d'.roles.Nodup) {s : σ}
    (hedges : d'.edges = d.edges.ensure s .empty) (hnew : ¬ d.IsSource s)
    (hsource : ∀ t, d'.IsSource t ↔ t = s ∨ d.IsSource t)
    (htarget : ∀ t, d.IsTarget t → d'.IsTarget t) : d'.Consistent where
  roles_nodup := hroles
  isSome_find?_iff t := by
    rw [hedges, Assoc.find?_ensure, hsource, ← hd.isSome_find?_iff]
    split_ifs with ht <;> simp [ht]
  tidy t e he := by
    rw [hedges, Assoc.find?_ensure] at he
    split_ifs at he with ht
    · rw [ht, hd.find?_eq_none hnew] at he
      cases he
      exact Edges.tidy_empty
    · exact (hd.tidy t e he).mono fun u _ => htarget u

/-- Changing the edges of a source keeps a draft consistent if it keeps them tidy. -/
lemma updateSource (hd : d.Consistent) (s : σ) {f : Edges σ k → Edges σ k}
    (hf : ∀ e, e.Tidy d.IsTarget → (f e).Tidy d.IsTarget) : (d.updateSource s f).Consistent where
  roles_nodup := hd.roles_nodup
  isSome_find?_iff t := by
    have hkept : ((d.updateSource s f).edges.find? t).isSome = (d.edges.find? t).isSome := by
      rw [Draft.updateSource, Assoc.find?_update]
      split_ifs <;> simp
    rw [hkept, hd.isSome_find?_iff]
    exact Iff.rfl
  tidy t e he := by
    rw [Draft.updateSource, Assoc.find?_update] at he
    split_ifs at he
    · obtain ⟨e', he', rfl⟩ := Option.map_eq_some_iff.mp he
      exact hf e' (hd.tidy t e' he')
    · exact hd.tidy t e he

/-- Where the initial state goes away, its edges go with it. -/
lemma withdrawInit (hd : d.Consistent) : d.withdrawInit.Consistent := by
  rw [Draft.withdrawInit]
  cases hinit : d.init with
  | none => exact hd
  | some previous =>
    have hnot := not_mem_states_of_init hd.roles_nodup hinit
    refine ⟨hd.roles_nodup.of_append_right, fun s => ?_, fun s e he => ?_⟩
    · simp only [dropSource, Assoc.find?_erase, IsSource, reduceCtorEq, false_or]
      split_ifs with hs
      · simp [hs, hnot]
      · rw [hd.isSome_find?_iff, IsSource, hinit, Option.some_inj, or_iff_right (Ne.symm hs)]
    · simp only [dropSource, Assoc.find?_erase] at he
      split_ifs at he
      exact hd.tidy s e he

/-- Where the exit goes away, the edges to it go with it. -/
lemma withdrawExit (hd : d.Consistent) : d.withdrawExit.Consistent := by
  rw [Draft.withdrawExit]
  cases hexit : d.exit with
  | none => exact hd
  | some previous =>
    refine ⟨hd.roles_nodup.sublist ((List.sublist_append_right _ _).append_left _), fun s => ?_,
      fun s e he => ?_⟩
    · simp only [Draft.dropTarget, Assoc.find?_map, Option.isSome_map, hd.isSome_find?_iff]
      exact Iff.rfl
    · simp only [Draft.dropTarget, Assoc.find?_map] at he
      obtain ⟨e', he', rfl⟩ := Option.map_eq_some_iff.mp he
      refine ((hd.tidy s e' he').dropTarget previous).mono fun t _ ht => Or.inr ?_
      exact ht.1.resolve_left fun h => ht.2 (Option.some.inj (h.symm.trans hexit))

lemma removeState (hd : d.Consistent) (s : σ) : (d.removeState s).Consistent := by
  rw [Draft.removeState]
  split_ifs with hmem
  · have hstates : ∀ t, t ∈ d.states.erase s ↔ t ≠ s ∧ t ∈ d.states :=
      fun t => (nodup_states hd.roles_nodup).mem_erase_iff
    have hinit : d.init ≠ some s := init_ne_of_isTarget hd.roles_nodup (Or.inr hmem)
    refine ⟨hd.roles_nodup.sublist ((List.erase_sublist.append_left _).append_left _),
      fun t => ?_, fun t e he => ?_⟩
    · simp only [Draft.dropTarget, dropSource, Assoc.find?_map, Assoc.find?_erase, IsSource,
        Option.isSome_map, hstates]
      split_ifs with ht
      · simp [ht, hinit]
      · rw [hd.isSome_find?_iff, IsSource, and_iff_right ht]
    · simp only [Draft.dropTarget, dropSource, Assoc.find?_map, Assoc.find?_erase] at he
      split_ifs at he
      · cases he
      · obtain ⟨e', he', rfl⟩ := Option.map_eq_some_iff.mp he
        refine ((hd.tidy t e' he').dropTarget s).mono fun u _ hu => hu.1.imp_right fun hu' => ?_
        exact (hstates u).mpr ⟨hu.2, hu'⟩
  · exact hd

variable [Label σ]

lemma setInit (hd : d.Consistent) (s : σ) : (d.setInit s).2.Consistent := by
  rw [Draft.setInit]
  split_ifs with hsame hexit hdecl
  · exact hd
  · exact hd
  · exact hd
  · have hnew : s ∉ d.withdrawInit.exit.toList ++ d.withdrawInit.states := by
      simp [hexit, hdecl]
    refine hd.withdrawInit.of_edges_ensure (s := s) ?_ rfl ?_ ?_ fun t ht => ht
    · exact List.nodup_cons.mpr ⟨hnew, hd.withdrawInit.roles_nodup.of_append_right⟩
    · simp [IsSource, hdecl]
    · intro t
      simp [IsSource, ensureSource, eq_comm (a := t)]

lemma setExit (hd : d.Consistent) (s : σ) : (d.setExit s).2.Consistent := by
  rw [Draft.setExit]
  split_ifs with hsame hinit hdecl
  · exact hd
  · exact hd
  · exact hd
  · refine hd.withdrawExit.of_edges_eq ?_ rfl (fun _ => Iff.rfl) fun t ht => Or.inr ?_
    · have hroles := hd.withdrawExit.roles_nodup
      rw [roles, withdrawExit_exit] at hroles
      rw [accept_snd]
      refine List.nodup_middle.mpr (List.nodup_cons.mpr ⟨?_, hroles⟩)
      simp [hinit, hdecl]
    · exact ht.resolve_left (by simp)

lemma addState (hd : d.Consistent) (s : σ) : (d.addState s).2.Consistent := by
  rw [Draft.addState]
  split_ifs with hinit hexit hdecl
  · exact hd
  · exact hd
  · exact hd
  · have hnew : s ∉ d.roles := by simp [roles, hinit, hexit, hdecl]
    refine hd.of_edges_ensure (s := s) ?_ rfl ?_ ?_ fun t => Or.imp_right (List.mem_append_left _)
    · show (d.init.toList ++ (d.exit.toList ++ (d.states ++ [s]))).Nodup
      rw [← List.append_assoc d.exit.toList, ← List.append_assoc d.init.toList]
      exact List.nodup_append_comm.mp (List.nodup_cons.mpr ⟨hnew, hd.roles_nodup⟩)
    · simp [IsSource, hinit, hdecl]
    · intro t
      simp only [IsSource, ensureSource, accept_snd, List.mem_append, List.mem_singleton]
      tauto

lemma addTransition (hd : d.Consistent) (s t : σ) (g : Option (Guard k)) :
    (d.addTransition s t g).2.Consistent := by
  rw [Draft.addTransition]
  split_ifs with hsource htarget
  · exact hd
  · exact hd.updateSource s fun e he => he.add htarget g
  · exact hd

/-- Whether an edit is possible or not, it keeps a draft consistent. -/
lemma attempt (hd : d.Consistent) (e : Edit σ k) : (d.attempt e).2.Consistent := by
  cases e with
  | setInit s => exact hd.setInit s
  | setExit s => exact hd.setExit s
  | addState s => exact hd.addState s
  | removeState s => exact hd.removeState s
  | addTransition s t g => exact hd.addTransition s t g
  | removeTransition s t =>
    exact hd.updateSource s fun e he => (he.dropTarget t).mono fun _ _ hu => hu.1
  | removeTransitionKind s t kind =>
    cases kind with
    | conditional => exact hd.updateSource s fun e he => he.dropConditional t
    | unconditional => exact hd.updateSource s fun e he => he.dropUnconditional t
  | allowUnreachable b => exact ⟨hd.roles_nodup, hd.isSome_find?_iff, hd.tidy⟩

lemma afterBuild (hd : d.Consistent) : d.afterBuild.Consistent := by
  rw [Draft.afterBuild]
  split
  · exact consistent_empty
  · exact hd

end Consistent

lemma mem_sources_iff {d : Draft σ k} {s : σ} {e : Edges σ k} :
    (s, e) ∈ d.sources ↔ d.IsSource s ∧ d.edges.find? s = some e := by
  simp only [sources, List.mem_filterMap, List.mem_append, Option.mem_toList, IsSource]
  constructor
  · rintro ⟨t, ht, h⟩
    obtain ⟨e', he', heq⟩ := Option.map_eq_some_iff.mp h
    cases heq
    exact ⟨ht, he'⟩
  · rintro ⟨hs, he⟩
    exact ⟨s, hs, by rw [he]; rfl⟩

@[simp] lemma freeze_value (d : Draft σ k) (s : σ) : (d.freeze s).value = s := by
  rw [freeze]
  split <;> rfl

variable [Label σ]

/-- An edit is either accepted, or refused before anything has changed. -/
lemma attempt_cases (d : Draft σ k) (e : Edit σ k) :
    (∃ d' : Draft σ k, d.attempt e = d'.accept) ∨ ∃ s c, d.attempt e = d.refuse s c := by
  cases e with
  | setInit s =>
    simp only [attempt, setInit]
    split_ifs
    · exact Or.inl ⟨_, rfl⟩
    · exact Or.inr ⟨_, _, rfl⟩
    · exact Or.inr ⟨_, _, rfl⟩
    · exact Or.inl ⟨_, rfl⟩
  | setExit s =>
    simp only [attempt, setExit]
    split_ifs
    · exact Or.inl ⟨_, rfl⟩
    · exact Or.inr ⟨_, _, rfl⟩
    · exact Or.inr ⟨_, _, rfl⟩
    · exact Or.inl ⟨_, rfl⟩
  | addState s =>
    simp only [attempt, addState]
    split_ifs
    · exact Or.inr ⟨_, _, rfl⟩
    · exact Or.inr ⟨_, _, rfl⟩
    · exact Or.inl ⟨_, rfl⟩
    · exact Or.inl ⟨_, rfl⟩
  | addTransition s t g =>
    simp only [attempt, addTransition]
    split_ifs
    · exact Or.inr ⟨_, _, rfl⟩
    · exact Or.inl ⟨_, rfl⟩
    · exact Or.inr ⟨_, _, rfl⟩
  | removeState s => exact Or.inl ⟨_, rfl⟩
  | removeTransition s t => exact Or.inl ⟨_, rfl⟩
  | removeTransitionKind s t kind => cases kind <;> exact Or.inl ⟨_, rfl⟩
  | allowUnreachable b => exact Or.inl ⟨_, rfl⟩

/-- A refused edit changes nothing. -/
lemma attempt_of_error {d : Draft σ k} {e : Edit σ k} {refused : Error}
    (h : (d.attempt e).1 = .error refused) : (d.attempt e).2 = d := by
  rcases d.attempt_cases e with ⟨d', hd'⟩ | ⟨s, c, hd'⟩
  · rw [hd'] at h
    cases h
  · rw [hd', refuse_snd]

/-- A failed build changes nothing. -/
lemma afterBuild_of_error {d : Draft σ k} {refused : Error} (h : d.build.result = .error refused) :
    d.afterBuild = d := by
  rw [afterBuild, h]

end Draft

/-! ### Histories -/

/-- What can be asked of a draft. -/
inductive Command (σ : Type) (k : Kind)
  | edit (e : Edit σ k)
  | build

section

variable [DecidableEq σ] [Label σ]

/-- The answer to a command, with the draft that it leaves behind. -/
def Draft.respond (d : Draft σ k) : Command σ k → Except Error Unit × Draft σ k
  | .edit e => d.attempt e
  | .build => (d.build.result.map fun _ => (), d.afterBuild)

/-- The draft after a command. -/
def Draft.perform (d : Draft σ k) (c : Command σ k) : Draft σ k := (d.respond c).2

/-- The draft after commands, from an empty one. -/
def Draft.after (cs : List (Command σ k)) : Draft σ k := cs.foldl Draft.perform .empty

/-- The model comes out of a build, after any commands. -/
def Model.Built (m : Model σ k) : Prop :=
  ∃ cs : List (Command σ k), (Draft.after cs).build.result = .ok m

namespace Draft

lemma Consistent.perform {d : Draft σ k} (hd : d.Consistent) (c : Command σ k) :
    (d.perform c).Consistent := by
  cases c with
  | edit e => exact hd.attempt e
  | build => exact hd.afterBuild

lemma Consistent.foldl_perform {d : Draft σ k} (hd : d.Consistent) (cs : List (Command σ k)) :
    (cs.foldl Draft.perform d).Consistent := by
  induction cs generalizing d with
  | nil => exact hd
  | cons c cs ih => exact ih (hd.perform c)

/-- Drafts are consistent after any commands. -/
lemma consistent_after (cs : List (Command σ k)) : (after cs).Consistent :=
  consistent_empty.foldl_perform cs

/-- A command that fails changes nothing. -/
lemma respond_of_error {d : Draft σ k} {c : Command σ k} {refused : Error}
    (h : (d.respond c).1 = .error refused) : (d.respond c).2 = d := by
  cases c with
  | edit e => exact attempt_of_error h
  | build =>
    cases hresult : d.build.result with
    | ok m => simp [respond, hresult, Except.map] at h
    | error e => exact afterBuild_of_error hresult

/-- After any commands, whether they succeeded or not: the initial state, the exit and the declared
states are pairwise different; exactly the initial state and the declared states have an entry in
the table of edges; edges lead to declared states or to the exit, never to the initial state, and
from one source at most once to each target with and once without a guard; and a command that fails
leaves the draft as it was. -/
theorem parts_and_edges_after (cs : List (Command σ k)) :
    (after cs).roles.Nodup ∧
      (∀ s, ((after cs).edges.find? s).isSome = true ↔
        (after cs).init = some s ∨ s ∈ (after cs).states) ∧
      (∀ s e, (after cs).edges.find? s = some e →
        (∀ t ∈ e.targets, ((after cs).exit = some t ∨ t ∈ (after cs).states) ∧
          (after cs).init ≠ some t) ∧
        (e.conditional.map Edge.target).Nodup ∧ e.unconditional.Nodup) ∧
      ∀ c refused, ((after cs).respond c).1 = .error refused →
        ((after cs).respond c).2 = after cs := by
  have hd := consistent_after cs
  refine ⟨hd.roles_nodup, hd.isSome_find?_iff, fun s e he => ?_, fun c _ => respond_of_error⟩
  have htidy := hd.tidy s e he
  refine ⟨fun t ht => ?_, htidy.conditional_nodup, htidy.unconditional_nodup⟩
  exact ⟨htidy.targets t ht, init_ne_of_isTarget hd.roles_nodup (htidy.targets t ht)⟩

/-- What a build has checked, and the model that comes out of it. -/
lemma build_eq_ok_iff {d : Draft σ k} {m : Model σ k} :
    d.build.result = .ok m ↔
      ∃ start exit, d.init = some start ∧ d.exit = some exit ∧ start ≠ exit ∧
        (∀ s e, d.IsSource s → d.edges.find? s = some e → e.fault? s = none) ∧
        (d.checkReachability start).result = .ok () ∧
        m = ⟨d.freeze start, exit, d.states.map d.freeze⟩ := by
  have hfaults : (∀ p ∈ d.sources, p.2.fault? p.1 = none) ↔
      ∀ s e, d.IsSource s → d.edges.find? s = some e → e.fault? s = none := by
    simp only [Prod.forall, mem_sources_iff, and_imp]
  rw [build, ← hfaults]
  cases hinit : d.init with
  | none => simp [Logged.fail]
  | some start =>
    cases hexit : d.exit with
    | none => simp [Logged.fail]
    | some exit =>
      simp only [Option.some.injEq, exists_eq_left', exists_and_left]
      by_cases heq : start = exit
      · simp [heq, Logged.fail]
      · rw [if_neg heq]
        cases hfault : d.sources.findSome? fun p => p.2.fault? p.1 with
        | some fault =>
          obtain ⟨p, hp, hsome⟩ := List.exists_of_findSome?_eq_some hfault
          refine iff_of_false (by simp [Logged.fail]) fun h => ?_
          rw [h.2.1 p hp] at hsome
          cases hsome
        | none =>
          rw [List.findSome?_eq_none_iff] at hfault
          rw [Logged.result_bind]
          cases (d.checkReachability start).result with
          | error e => simp [bind, Except.bind]
          | ok u =>
            simp only [ne_eq, heq, not_false_eq_true, true_and, and_iff_right hfault]
            exact ⟨fun h => by cases h; rfl, fun h => by rw [h]; rfl⟩

/-- Sources that pass the check are frozen to states with unambiguous edges. -/
lemma unambiguous_freeze {d : Draft σ k} {s : σ}
    (h : ∀ e, d.edges.find? s = some e → e.fault? s = none) :
    Unambiguous (d.freeze s).conditional := by
  rw [freeze]
  split
  · next e he => exact (fault?_eq_none_iff.mp (h e he)).2
  · exact unambiguous_nil

end Draft

/-- A built model has no label for two states, and unambiguous edges. -/
lemma Model.Built.valid {m : Model σ k} (hm : m.Built) : m.Valid := by
  obtain ⟨cs, h⟩ := hm
  obtain ⟨start, exit, hinit, hexit, -, hfault, -, rfl⟩ := Draft.build_eq_ok_iff.mp h
  have hroles := (Draft.consistent_after cs).roles_nodup
  have hvalues : ((Draft.after cs).states.map (Draft.after cs).freeze).map State.value
      = (Draft.after cs).states := by
    simp [Function.comp_def]
  simp only [Draft.roles, hinit, hexit, Option.toList_some, List.cons_append, List.nil_append,
    List.nodup_cons, List.mem_cons, not_or] at hroles
  obtain ⟨⟨hne, hstart⟩, hexitmem, hnodup⟩ := hroles
  refine ⟨?_, ?_, ?_⟩
  · simp only [sources, List.map_cons, hvalues, List.mem_cons, not_or, Draft.freeze_value]
    exact ⟨Ne.symm hne, hexitmem⟩
  · simp only [sources, List.map_cons, hvalues, Draft.freeze_value]
    exact List.nodup_cons.mpr ⟨hstart, hnodup⟩
  · refine List.forall_mem_cons.mpr ⟨?_, List.forall_mem_map.mpr fun s hs => ?_⟩
    · exact Draft.unambiguous_freeze fun e => hfault start e (Or.inl hinit)
    · exact Draft.unambiguous_freeze fun e => hfault s e (Or.inr hs)

end

/-! ### An example -/

/-- Symbols that share a hash, one of them in a set, and a range that holds an explicit symbol. -/
def collidingModel : Model Int32 .i64 where
  init := ⟨0, [⟨1, .single 1⟩, ⟨2, .set [4294967296, 7]⟩, ⟨9, .range 5 8⟩], none⟩
  exit := 9
  states := [⟨1, [], some 2⟩, ⟨2, [⟨1, .single 1⟩], none⟩]

/-- Not every command succeeds on the way to a model. -/
lemma collidingModel_built : collidingModel.Built :=
  ⟨[.edit (.setExit 9), .edit (.setInit 0), .edit (.addState 1), .edit (.addState 2),
    .edit (.addState 3), .build, .edit (.addState 1), .edit (.removeState 3),
    .edit (.addTransition 0 1 (some (.single 1))),
    .edit (.addTransition 0 2 (some (.set [4294967296, 7]))),
    .edit (.addTransition 0 9 (some (.range 5 8))), .edit (.addTransition 2 0 none),
    .edit (.addTransition 1 2 none), .edit (.addTransition 2 1 (some (.single 1)))], rfl⟩

end StateMachine
