import StateMachine.Proofs.Acceptance

/-!
# States that cannot be reached

Once the ends and the edges of a draft have passed, a build has one thing left to check. The states
that it misses are exactly the declared ones without a path of edges from the initial state: it
fails at the first of them, or it warns about each of them in order. The report can be relied on,
for symbols lead a model along paths of edges only, until they lead to the exit.
-/

namespace StateMachine

variable {σ : Type} {k : Kind} [DecidableEq σ]

/-! ### Reports -/

namespace Draft

variable {d : Draft σ k} {start exit : σ}

open scoped Classical in
/-- The declared states to which no path of edges leads, in the order of their declaration. -/
noncomputable def stranded (d : Draft σ k) (start : σ) : List σ :=
  d.states.filter fun s => ¬ d.Reachable start s

/-- The search misses exactly the stranded states, and keeps their order. -/
lemma Consistent.unreached_eq (hd : d.Consistent) (hstart : d.init = some start) :
    d.unreached start = d.stranded start := by
  apply List.filter_congr
  intro s hs
  rw [decide_eq_decide]
  exact not_congr (hd.mem_reached_iff hstart hs)

/-- The first stranded state has only reachable ones before it. -/
lemma exists_stranded_eq_cons {before behind : List σ} {s : σ}
    (hstates : d.states = before ++ s :: behind) (hbefore : ∀ t ∈ before, d.Reachable start t)
    (hs : ¬ d.Reachable start s) : ∃ rest, d.stranded start = s :: rest := by
  classical
  have hnone : before.filter (fun t => ¬ d.Reachable start t) = [] := by
    rw [List.filter_eq_nil_iff]
    intro t ht
    simpa using hbefore t ht
  rw [stranded, hstates, List.filter_append, hnone, List.nil_append,
    List.filter_cons_of_pos (by simpa using hs)]
  exact ⟨_, rfl⟩

variable [Label σ]

/-- The last check fails at the first stranded state. -/
lemma Consistent.checkReachability_of_stranded (hd : d.Consistent) (hstart : d.init = some start)
    (hallow : d.allowUnreachable = false) {s : σ} {rest : List σ}
    (hs : d.stranded start = s :: rest) :
    d.checkReachability start = .fail (.invalidModel (.unreachableState (Label.text s))) := by
  simp [checkReachability, hallow, hd.unreached_eq hstart, hs]

/-- Where stranded states are allowed, the last check warns about each of them. -/
lemma Consistent.checkReachability_of_allowed (hd : d.Consistent) (hstart : d.init = some start)
    (hallow : d.allowUnreachable = true) :
    d.checkReachability start
      = ⟨(d.stranded start).map fun s => .unreachable (Label.text s), .ok ()⟩ := by
  simp [checkReachability, hallow, hd.unreached_eq hstart]

/-- Behind the checks of ends and edges, a build is the last check and then the model. -/
lemma Consistent.build_of_checked (hd : d.Consistent) (hinit : d.init = some start)
    (hexit : d.exit = some exit)
    (hedges : ∀ s e, d.IsSource s → d.edges.find? s = some e → e.Acceptable) :
    d.build = (do
      d.checkReachability start
      let model : Model σ k := ⟨d.freeze start, exit, d.states.map d.freeze⟩
      Logged.emit (.built model.stateCount model.fingerprint)
      pure model) := by
  have hne : start ≠ exit := by
    rintro rfl
    exact init_ne_of_isTarget hd.roles_nodup (Or.inl hexit) hinit
  have hfault : d.sources.findSome? (fun p => p.2.fault? p.1) = none := by
    rw [List.findSome?_eq_none_iff]
    rintro ⟨s, e⟩ hmem
    obtain ⟨hs, he⟩ := mem_sources_iff.mp hmem
    exact Edges.fault?_eq_none_iff_acceptable.mpr (hedges s e hs he)
  simp only [build, hinit, hexit, if_neg hne, hfault]

/-- Behind the checks of ends and edges, a build fails only for stranded states. -/
lemma Consistent.build_eq_error_iff (hd : d.Consistent) (hinit : d.init = some start)
    (hexit : d.exit = some exit)
    (hedges : ∀ s e, d.IsSource s → d.edges.find? s = some e → e.Acceptable)
    (hallow : d.allowUnreachable = false) :
    (∃ e, d.build.result = .error e) ↔ ∃ s ∈ d.states, ¬ d.Reachable start s := by
  have hreach := hd.checkReachability_eq_ok_iff hinit
  rw [hd.build_of_checked hinit hexit hedges, Logged.result_bind]
  cases hcheck : (d.checkReachability start).result with
  | ok u =>
    have hall := (hreach.mp hcheck).resolve_left (by simp [hallow])
    refine iff_of_false ?_ (by simpa using hall)
    rintro ⟨e, he⟩
    cases he
  | error e =>
    refine iff_of_true ⟨e, rfl⟩ ?_
    by_contra hall
    rw [hreach.mpr (Or.inr (by simpa using hall))] at hcheck
    cases hcheck

end Draft

/-! ### Runs -/

namespace Draft.Yields

variable {d : Draft σ k} {m : Model σ k}

/-- One symbol leads a model along an edge of its draft, or to the exit. -/
lemma leads_next (hm : d.Yields m) (s : σ) (x : Symbol k) :
    m.next s x = m.exit ∨ d.Leads s (m.next s x) := by
  rw [Model.next]
  split
  · next t ht =>
    have hvalue : t.value = s := by simpa using List.find?_some ht
    have hedges := hm.edges t (List.mem_of_find?_eq_some ht)
    rw [hvalue] at hedges
    rcases t.next_cases m.exit x with ⟨e, he, hnext⟩ | hnext
    · exact Or.inr ⟨_, hedges, List.mem_append_left _ (hnext ▸ List.mem_map_of_mem he)⟩
    · rw [hnext]
      cases hfallback : t.fallback with
      | none => exact Or.inl rfl
      | some u => exact Or.inr ⟨_, hedges, List.mem_append_right _ (by simp [hfallback])⟩
  · exact Or.inl rfl

/-- Symbols lead a model along a path of edges, until they lead to the exit for good. -/
lemma reachable_foldl (hm : d.Yields m) (hvalid : m.Valid) {start s : σ}
    (hs : s = m.exit ∨ d.Reachable start s) (xs : List (Symbol k)) :
    xs.foldl m.next s = m.exit ∨ d.Reachable start (xs.foldl m.next s) := by
  induction xs generalizing s with
  | nil => exact hs
  | cons x xs ih =>
    apply ih
    rcases hs with rfl | hs
    · exact Or.inl (Model.next_of_not_source hvalid.exit_not_source x)
    · exact (hm.leads_next s x).imp_right hs.tail

end Draft.Yields

/-- No symbols lead a built model from its initial state to a stranded one. -/
lemma Draft.Consistent.foldl_next_not_mem_unreached {d : Draft σ k} (hd : d.Consistent)
    {m : Model σ k} (hm : d.Yields m) (hvalid : m.Valid) (xs : List (Symbol k)) :
    xs.foldl m.next m.init.value ∉ d.unreached m.init.value := by
  rw [hd.mem_unreached_iff hm.init]
  rintro ⟨hmem, hlost⟩
  rcases hm.reachable_foldl hvalid (Or.inr Relation.ReflTransGen.refl) xs with hend | hend
  · -- the exit is not declared
    rw [hend, hm.states] at hmem
    exact hvalid.exit_not_source (List.mem_cons_of_mem _ hmem)
  · exact hlost hend

/-! ### Builds -/

namespace Draft

variable [Label σ]

/-- The check for states that cannot be reached is exact, and it can be relied on. After any
commands that leave a draft with both ends set and acceptable edges, the states that it misses are
exactly the declared ones without a path of edges from the initial state. If that is not allowed, a
build fails exactly if there is such a state, and names the first one in the order of declaration;
if it is allowed, a build succeeds with one warning for each of them, in that order. And no symbols
lead a model that comes out of the build from its initial state to one of them. -/
theorem build_reports_unreachable (cs : List (Command σ k)) {start exit : σ}
    (hinit : (after cs).init = some start) (hexit : (after cs).exit = some exit)
    (hedges : ∀ s e, (after cs).IsSource s → (after cs).edges.find? s = some e → e.Acceptable) :
    (∀ s, s ∈ (after cs).unreached start ↔
      s ∈ (after cs).states ∧ ¬ (after cs).Reachable start s) ∧
    ((after cs).allowUnreachable = false →
      ((∃ e, (after cs).build.result = .error e) ↔
        ∃ s ∈ (after cs).states, ¬ (after cs).Reachable start s) ∧
      ∀ before s behind, (after cs).states = before ++ s :: behind →
        (∀ t ∈ before, (after cs).Reachable start t) → ¬ (after cs).Reachable start s →
          (after cs).build = .fail (.invalidModel (.unreachableState (Label.text s)))) ∧
    ((after cs).allowUnreachable = true → ∃ m, (after cs).build =
      ⟨((after cs).stranded start).map (fun s => .unreachable (Label.text s)) ++
        [.built m.stateCount m.fingerprint], .ok m⟩) ∧
    ∀ m, (after cs).build.result = .ok m → ∀ xs : List (Symbol k),
      xs.foldl m.next m.init.value ∉ (after cs).unreached start := by
  have hd := consistent_after cs
  have hbuild := hd.build_of_checked hinit hexit hedges
  refine ⟨fun s => hd.mem_unreached_iff hinit, fun hallow => ⟨?_, ?_⟩, fun hallow => ?_, ?_⟩
  · exact hd.build_eq_error_iff hinit hexit hedges hallow
  · intro before s behind hstates hbefore hs
    obtain ⟨rest, hrest⟩ := exists_stranded_eq_cons hstates hbefore hs
    rw [hbuild, hd.checkReachability_of_stranded hinit hallow hrest]
    rfl
  · rw [hbuild, hd.checkReachability_of_allowed hinit hallow]
    exact ⟨_, rfl⟩
  · intro m hm xs
    have hyields := hd.yields_of_build hm
    obtain rfl : m.init.value = start := Option.some.inj (hyields.init.symm.trans hinit)
    exact hd.foldl_next_not_mem_unreached hyields (Model.Built.valid ⟨cs, hm⟩) xs

/-- Two states that lead to each other and back to the others, while nothing leads to them. -/
def islandCommands (allow : Bool) : List (Command Int32 .bool) :=
  [.edit (.setInit 0), .edit (.setExit 9), .edit (.addState 2), .edit (.addState 1),
    .edit (.addState 3), .edit (.addTransition 0 1 (some (.single true))),
    .edit (.addTransition 1 1 none), .edit (.addTransition 2 3 (some (.single true))),
    .edit (.addTransition 2 1 none), .edit (.addTransition 3 2 none),
    .edit (.allowUnreachable allow)]

lemma acceptable_islandCommands (allow : Bool) {s : Int32} {e : Edges Int32 .bool}
    (hs : (after (islandCommands allow)).IsSource s)
    (he : (after (islandCommands allow)).edges.find? s = some e) : e.Acceptable := by
  obtain ⟨m, hm⟩ : ∃ m, (after (islandCommands true)).build.result = .ok m := ⟨_, rfl⟩
  have hok := ((consistent_after (islandCommands true)).build_eq_ok_iff_acceptable.mp hm).1
  -- the permission does not change the edges
  exact hok.edges s e (by cases allow <;> exact hs) (by cases allow <;> exact he)

/-- The report about such states. -/
theorem build_reports_unreachable_island :
    (after (islandCommands false)).build = .fail (.invalidModel (.unreachableState "2")) ∧
    (∃ m, (after (islandCommands true)).build =
      ⟨[.unreachable "2", .unreachable "3", .built m.stateCount m.fingerprint], .ok m⟩) ∧
    ∀ m, (after (islandCommands true)).build.result = .ok m → ∀ xs : List Bool,
      xs.foldl m.next m.init.value ∉ [2, 3] := by
  have hinit (allow : Bool) : (after (islandCommands allow)).init = some 0 := rfl
  have hexit (allow : Bool) : (after (islandCommands allow)).exit = some 9 := rfl
  have hforbidden := build_reports_unreachable _ (hinit false) (hexit false)
    fun _ _ => acceptable_islandCommands false
  have hallowed := build_reports_unreachable _ (hinit true) (hexit true)
    fun _ _ => acceptable_islandCommands true
  refine ⟨?_, ?_, hallowed.2.2.2⟩
  · exact (hforbidden.2.1 rfl).2 [] 2 [1, 3] rfl (by simp) ((hforbidden.1 2).mp (by decide)).2
  · have hwarned := hallowed.2.2.1 rfl
    rwa [← (consistent_after (islandCommands true)).unreached_eq (hinit true)] at hwarned

end Draft

end StateMachine
