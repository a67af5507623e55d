import StateMachine.Plan
import StateMachine.Proofs.Draft
import StateMachine.Proofs.Rendering

/-!
# Fingerprints are faithful

A fingerprint can be read back. Labels and symbols are legible, and so are guards, edges and states
that are put together from them. Sorting and dropping repeats loses only what does not matter: two
models with the same fingerprint have the same states with the same transitions, and lead every
symbol to the same state.
-/

namespace StateMachine

open Text

variable {k : Kind}

/-! ### Labels and symbols -/

/-- Labels that can be read back from a text that goes on behind them. -/
class LegibleLabel (σ : Type) [Label σ] : Prop where
  legible : Legible (Label.text : σ → String)
  injective : Function.Injective (Label.text : σ → String)

instance : LegibleLabel Int32 where
  legible := legible_int.comp Int32.toInt
  injective := toString_int_injective.comp fun _ _ => Int32.toInt_inj.mp

instance : LegibleLabel Int64 where
  legible := legible_int.comp Int64.toInt
  injective := toString_int_injective.comp fun _ _ => Int64.toInt_inj.mp

instance : LegibleLabel String where
  legible := legible_quoteString
  injective := quoteString_injective

instance LabelType.instLegibleLabel : (t : LabelType) → LegibleLabel t.Carrier
  | .i32 => inferInstanceAs (LegibleLabel Int32)
  | .i64 => inferInstanceAs (LegibleLabel Int64)
  | .str => inferInstanceAs (LegibleLabel String)

instance (t : LabelType) : LegibleLabel (LabelTypes.Carrier t) :=
  inferInstanceAs (LegibleLabel t.Carrier)

lemma legible_bool : Legible (@Symbol.text .bool) := by
  apply Legible.of_words
  · intro b
    cases b <;> simp [Symbol.text]
  · intro b
    cases b <;> simp [Symbol.text, isSeparator]

lemma Symbol.legible_text (k : Kind) : Legible (@Symbol.text k) := by
  cases k with
  | bool => exact legible_bool
  | char => exact legible_quoteChar
  | i8 => exact legible_int.comp Int8.toInt
  | i16 => exact legible_int.comp Int16.toInt
  | i32 => exact legible_int.comp Int32.toInt
  | i64 => exact legible_int.comp Int64.toInt
  | u8 => exact legible_nat.comp UInt8.toNat
  | u16 => exact legible_nat.comp UInt16.toNat
  | u32 => exact legible_nat.comp UInt32.toNat
  | u64 => exact legible_nat.comp UInt64.toNat
  | f32 =>
    exact Legible.of_pointed fun x =>
      DecimalLayout.pointed_text Format.proper_binary32 Format.bounded_binary32 x.bits.toNat
  | f64 =>
    exact Legible.of_pointed fun x =>
      DecimalLayout.pointed_text Format.proper_binary64 Format.bounded_binary64 x.bits.toNat
  | str => exact legible_quoteString

/-- Symbols with the same text are the same. This is less than equal: all NaN are the same. -/
lemma Symbol.same_of_text_eq {x y : Symbol k} (h : x.text = y.text) : x.same y = true := by
  cases k with
  | bool => exact (by decide : ∀ a b : Bool, @Symbol.text .bool a = @Symbol.text .bool b →
      @Symbol.same .bool a b = true) x y h
  | char => exact decide_eq_true (quoteChar_injective h)
  | i8 => exact decide_eq_true (Int8.toInt_inj.mp (toString_int_injective h))
  | i16 => exact decide_eq_true (Int16.toInt_inj.mp (toString_int_injective h))
  | i32 => exact decide_eq_true (Int32.toInt_inj.mp (toString_int_injective h))
  | i64 => exact decide_eq_true (Int64.toInt_inj.mp (toString_int_injective h))
  | u8 => exact decide_eq_true (UInt8.toNat_inj.mp (toString_nat_injective h))
  | u16 => exact decide_eq_true (UInt16.toNat_inj.mp (toString_nat_injective h))
  | u32 => exact decide_eq_true (UInt32.toNat_inj.mp (toString_nat_injective h))
  | u64 => exact decide_eq_true (UInt64.toNat_inj.mp (toString_nat_injective h))
  | f32 =>
    refine decide_eq_true (UInt32.toNat_inj.mp ?_)
    rw [Binary32.toNat_canonical, Binary32.toNat_canonical]
    exact DecimalLayout.canonical_eq_of_text_eq Format.proper_binary32 Format.bounded_binary32
      x.bits.toNat_lt y.bits.toNat_lt h
  | f64 =>
    refine decide_eq_true (UInt64.toNat_inj.mp ?_)
    rw [Binary64.toNat_canonical, Binary64.toNat_canonical]
    exact DecimalLayout.canonical_eq_of_text_eq Format.proper_binary64 Format.bounded_binary64
      x.bits.toNat_lt y.bits.toNat_lt h
  | str => exact decide_eq_true (quoteString_injective h)

/-! ### Guards -/

namespace Guard

@[simp] lemma toList_canonical_single (v : Symbol k) :
    (single v).canonical.toList = '=' :: v.text.toList := by
  simp [canonical]

@[simp] lemma toList_canonical_set (vs : List (Symbol k)) :
    (set vs).canonical.toList = '\x7b' :: ([','].intercalate
      ((sort (vs.map Symbol.text)).eraseReps.map String.toList) ++ ['\x7d']) := by
  simp [canonical]

@[simp] lemma toList_canonical_range (a b : Symbol k) :
    (range a b).canonical.toList
      = '[' :: (a.text.toList ++ '.' :: '.' :: '=' :: (b.text.toList ++ [']'])) := by
  simp [canonical]

lemma follows_canonical (g : Guard k) (x : List Char) : Follows (g.canonical.toList ++ x) := by
  cases g with
  | single v =>
    rw [toList_canonical_single]
    exact follows_cons.mpr rfl
  | set vs =>
    rw [toList_canonical_set]
    exact follows_cons.mpr rfl
  | range a b =>
    rw [toList_canonical_range]
    exact follows_cons.mpr rfl

/-- Lists with the same texts, sorted and without repeats, have the same symbols. -/
lemma exists_same_of_texts_eq {vs ws : List (Symbol k)}
    (h : (sort (vs.map Symbol.text)).eraseReps = (sort (ws.map Symbol.text)).eraseReps)
    {v : Symbol k} (hv : v ∈ vs) : ∃ w ∈ ws, v.same w = true := by
  have hmem : v.text ∈ (sort (vs.map Symbol.text)).eraseReps :=
    mem_eraseReps.mpr (mem_sort.mpr (List.mem_map_of_mem hv))
  rw [h, mem_eraseReps, mem_sort] at hmem
  obtain ⟨w, hw, htext⟩ := List.mem_map.mp hmem
  exact ⟨w, hw, Symbol.same_of_text_eq htext.symm⟩

lemma equiv_of_texts_eq {vs ws : List (Symbol k)}
    (h : (sort (vs.map Symbol.text)).eraseReps = (sort (ws.map Symbol.text)).eraseReps) :
    (set vs).equiv (set ws) = true := by
  refine equiv_set_iff.mpr ⟨fun v hv => exists_same_of_texts_eq h hv, fun w hw => ?_⟩
  obtain ⟨v, hv, hsame⟩ := exists_same_of_texts_eq h.symm hw
  exact ⟨v, hv, Symbol.same_symm hsame⟩

/-- Guards with the same rendering name the same symbols in the same form. -/
lemma canonical_append_inj {g g' : Guard k} {x y : List Char} (hx : Follows x) (hy : Follows y)
    (h : g.canonical.toList ++ x = g'.canonical.toList ++ y) :
    g.equiv g' = true ∧ x = y := by
  have hsymbol := Symbol.legible_text k
  cases g with
  | single v =>
    cases g' with
    | single w =>
      simp only [toList_canonical_single, List.cons_append, List.cons.injEq, true_and] at h
      exact ⟨Symbol.same_of_text_eq (hsymbol.text_eq hx hy h), hsymbol.rest_eq hx hy h⟩
    | set ws => simp at h
    | range c d => simp at h
  | set vs =>
    cases g' with
    | single w => simp at h
    | set ws =>
      simp only [toList_canonical_set, List.cons_append, List.append_assoc, List.nil_append,
        List.cons.injEq, true_and] at h
      have hlisted : ∀ (l : List (Symbol k)), ∀ u ∈ (sort (l.map Symbol.text)).eraseReps,
          ∃ v : Symbol k, v.text = u :=
        fun _ _ hu => exists_of_mem_sort (mem_eraseReps.mp hu)
      obtain ⟨htexts, hrest⟩ := hsymbol.intercalate_append_inj (by decide) (hlisted vs) (hlisted ws)
        (follows_cons.mpr rfl) (follows_cons.mpr rfl) (by simp) (by simp) h
      exact ⟨equiv_of_texts_eq htexts, List.tail_eq_of_cons_eq hrest⟩
    | range c d => simp at h
  | range a b =>
    cases g' with
    | single w => simp at h
    | set ws => simp at h
    | range c d =>
      simp only [toList_canonical_range, List.cons_append, List.append_assoc, List.nil_append,
        List.cons.injEq, true_and] at h
      have hdots : ∀ z, Follows ('.' :: z) := fun _ => follows_cons.mpr rfl
      have hbracket : ∀ z, Follows (']' :: z) := fun _ => follows_cons.mpr rfl
      have hstart := Symbol.same_of_text_eq (hsymbol.text_eq (hdots _) (hdots _) h)
      have hstop := hsymbol.rest_eq (hdots _) (hdots _) h
      simp only [List.cons.injEq, true_and] at hstop
      have hend := Symbol.same_of_text_eq (hsymbol.text_eq (hbracket _) (hbracket _) hstop)
      have hrest := hsymbol.rest_eq (hbracket _) (hbracket _) hstop
      exact ⟨by simp [equiv, hstart, hend], List.tail_eq_of_cons_eq hrest⟩

end Guard

/-! ### States -/

section

variable {σ : Type} [Label σ] [LegibleLabel σ]

/-- The rendering of an edge. -/
def Edge.text (e : Edge σ k) : String := Label.text e.target ++ e.guard.canonical

/-- Edges with the same rendering have the same target and guards of the same symbols. -/
lemma Edge.text_append_inj {e e' : Edge σ k} {x y : List Char}
    (hx : Follows x) (hy : Follows y) (h : e.text.toList ++ x = e'.text.toList ++ y) :
    (e.target = e'.target ∧ e.guard.equiv e'.guard = true) ∧ x = y := by
  simp only [Edge.text, String.toList_append, List.append_assoc] at h
  have hf := e.guard.follows_canonical x
  have hf' := e'.guard.follows_canonical y
  obtain ⟨hguard, hrest⟩ :=
    Guard.canonical_append_inj hx hy (LegibleLabel.legible.rest_eq hf hf' h)
  exact ⟨⟨LegibleLabel.injective (LegibleLabel.legible.text_eq hf hf' h), hguard⟩, hrest⟩

lemma Edge.legible_text : Legible (@Edge.text k σ _) where
  starts e := by
    obtain ⟨c, r, hstart, hc⟩ := LegibleLabel.legible.starts e.target
    exact ⟨c, r ++ e.guard.canonical.toList, by simp [Edge.text, hstart], hc⟩
  rest_eq hx hy h := (Edge.text_append_inj hx hy h).2

/-- Edges are covered by others that are rendered alike. -/
lemma covered_of_sort_eq {es es' : List (Edge σ k)}
    (h : sort (es.map Edge.text) = sort (es'.map Edge.text)) : Covered es es' := by
  intro e he
  obtain ⟨e', he', htext⟩ := exists_of_sort_eq h he
  have happend : e.text.toList ++ [] = e'.text.toList ++ [] := by rw [htext]
  exact ⟨e', he', (Edge.text_append_inj follows_nil follows_nil happend).1⟩

namespace State

/-- The rendering of a fallback. -/
def fallbackText : Option σ → List Char
  | none => []
  | some s => ';' :: (Label.text s).toList

omit [LegibleLabel σ] in
lemma toList_fragment (s : State σ k) :
    s.fragment.toList = (Label.text s.value).toList ++ '(' :: ([','].intercalate
      ((sort (s.conditional.map Edge.text)).map String.toList) ++
        (fallbackText s.fallback ++ [')'])) := by
  have htext : (fun e : Edge σ k => Label.text e.target ++ e.guard.canonical) = Edge.text :=
    rfl
  cases hf : s.fallback with
  | none => simp [fragment, fallbackText, htext, hf]
  | some v => simp [fragment, fallbackText, htext, hf]

lemma fallbackText_append_inj {a b : Option σ} {x y : List Char}
    (h : fallbackText a ++ ')' :: x = fallbackText b ++ ')' :: y) : a = b ∧ x = y := by
  have hfollows : ∀ z, Follows (')' :: z) := fun _ => follows_cons.mpr rfl
  cases a with
  | none =>
    cases b with
    | none => exact ⟨rfl, List.tail_eq_of_cons_eq h⟩
    | some w => simp [fallbackText] at h
  | some v =>
    cases b with
    | none => simp [fallbackText] at h
    | some w =>
      simp only [fallbackText, List.cons_append, List.cons.injEq, true_and] at h
      obtain rfl :=
        LegibleLabel.injective (LegibleLabel.legible.text_eq (hfollows _) (hfollows _) h)
      exact ⟨rfl, by simpa using h⟩

/-- States with the same rendering agree. -/
lemma fragment_append_inj {s s' : State σ k} {x y : List Char}
    (h : s.fragment.toList ++ x = s'.fragment.toList ++ y) : s.Agrees s' ∧ x = y := by
  simp only [toList_fragment, List.append_assoc, List.cons_append, List.nil_append] at h
  have hopen : ∀ z, Follows ('(' :: z) := fun _ => follows_cons.mpr rfl
  have hvalue := LegibleLabel.injective (LegibleLabel.legible.text_eq (hopen _) (hopen _) h)
  have hlist := List.tail_eq_of_cons_eq (LegibleLabel.legible.rest_eq (hopen _) (hopen _) h)
  -- the list of edges goes on as long as there are commas
  have hclose : ∀ (a : Option σ) z, Follows (fallbackText a ++ ')' :: z) ∧
      (fallbackText a ++ ')' :: z).head? ≠ some ',' := by
    intro a z
    cases a with
    | none => exact ⟨follows_cons.mpr rfl, by simp [fallbackText]⟩
    | some v => exact ⟨follows_cons.mpr rfl, by simp [fallbackText]⟩
  obtain ⟨hedges, hrest⟩ := Edge.legible_text.intercalate_append_inj (by decide)
    (fun _ => exists_of_mem_sort) (fun _ => exists_of_mem_sort) (hclose _ _).1 (hclose _ _).1
    (hclose _ _).2 (hclose _ _).2 hlist
  obtain ⟨hfallback, hrest⟩ := fallbackText_append_inj hrest
  exact ⟨⟨hvalue, hfallback, covered_of_sort_eq hedges, covered_of_sort_eq hedges.symm⟩,
    hrest⟩

lemma legible_fragment :
    Legible (State.fragment : State σ k → String) where
  starts s := by
    obtain ⟨c, r, hstart, hc⟩ := LegibleLabel.legible.starts s.value
    rw [toList_fragment, hstart]
    exact ⟨c, _, rfl, hc⟩
  rest_eq _ _ h := (fragment_append_inj h).2

end State

/-! ### Models -/

namespace Model

omit [LegibleLabel σ] in
lemma toList_fingerprint (m : Model σ k) :
    m.fingerprint.toList = (k.name ++ ":").toList ++ ((Label.text m.exit).toList ++ '|' ::
      (m.init.fragment.toList ++ '|' ::
        ['|'].intercalate ((sort (m.states.map State.fragment)).map String.toList))) := by
  simp [fingerprint]

lemma exists_agrees_of_sort_eq {l l' : List (State σ k)}
    (h : sort (l.map State.fragment) = sort (l'.map State.fragment)) :
    ∀ s ∈ l, ∃ s' ∈ l', s.Agrees s' := by
  intro s hs
  obtain ⟨s', hs', htext⟩ := exists_of_sort_eq h hs
  have happend : s.fragment.toList ++ [] = s'.fragment.toList ++ [] := by rw [htext]
  exact ⟨s', hs', (State.fragment_append_inj happend).1⟩

/-- Models with the same fingerprint agree. -/
lemma agrees_of_fingerprint_eq {m m' : Model σ k}
    (h : m.fingerprint = m'.fingerprint) : m.Agrees m' := by
  have hlist := congrArg String.toList h
  rw [toList_fingerprint, toList_fingerprint] at hlist
  -- one part after the other is read off: the exit, the initial state, the other states
  replace hlist := List.append_cancel_left hlist
  have hbar : ∀ z, Follows ('|' :: z) := fun _ => follows_cons.mpr rfl
  have hexit := LegibleLabel.injective (LegibleLabel.legible.text_eq (hbar _) (hbar _) hlist)
  replace hlist := List.tail_eq_of_cons_eq (LegibleLabel.legible.rest_eq (hbar _) (hbar _) hlist)
  obtain ⟨hinit, hrest⟩ := State.fragment_append_inj hlist
  have hstates := State.legible_fragment.intercalate_append_inj (x := []) (y := [])
    (show isSeparator '|' = true by decide) (fun _ => exists_of_mem_sort)
    (fun _ => exists_of_mem_sort) follows_nil follows_nil (by simp) (by simp)
    (by simpa using List.tail_eq_of_cons_eq hrest)
  exact ⟨hexit, hinit, exists_agrees_of_sort_eq hstates.1,
    exists_agrees_of_sort_eq hstates.1.symm⟩

/-- Fingerprints are faithful: built models that share one have the same ends, the same labels and,
label by label, the same transitions, so that every symbol leads to the same state. -/
theorem fingerprint_faithful {t : LabelType} {m m' : Model t.Carrier k}
    (hm : m.Built) (hm' : m'.Built) (h : m.fingerprint = m'.fingerprint) :
    m.exit = m'.exit ∧ m.init.value = m'.init.value ∧ (∀ v, v ∈ m.labels ↔ v ∈ m'.labels) ∧
      (∀ s ∈ m.sources, ∀ s' ∈ m'.sources, s.value = s'.value → s.Agrees s') ∧
      ∀ v x, m.next v x = m'.next v x := by
  have hagree := agrees_of_fingerprint_eq h
  refine ⟨hagree.exit_eq, hagree.init.value_eq, fun v => ?_, ?_, ?_⟩
  · rw [labels, labels, List.mem_cons, List.mem_cons, hagree.exit_eq]
    exact or_congr_right ⟨hagree.mem_source_values, hagree.symm.mem_source_values⟩
  · intro s hs s' hs' heq
    exact hagree.sources hm'.valid.nodup hs hs' heq
  · exact hagree.next_eq hm.valid hm'.valid

omit [LegibleLabel σ] in
/-- The order in which states were declared does not show. -/
lemma fingerprint_eq_of_perm (init : State σ k) (exit : σ) {l l' : List (State σ k)}
    (h : l.Perm l') :
    (⟨init, exit, l⟩ : Model σ k).fingerprint = (⟨init, exit, l'⟩ : Model σ k).fingerprint := by
  rw [fingerprint, fingerprint, sort_eq_of_perm (h.map State.fragment)]

/-- Labels and symbols that look like parts of a rendering, with states in one order or another. -/
def disguised (states : List (State String .str)) : Model String .str where
  init := ⟨"a(", [⟨"|", .set ["=\"", ","]⟩], some ";"⟩
  exit := "a"
  states := states

/-- The states of the disguised model. -/
def disguisedStates : List (State String .str) :=
  [⟨"|", [], some "a"⟩, ⟨";", [⟨"a", .range "a" "b"⟩, ⟨"|", .single "x"⟩], none⟩]

/-- The edits that lead to the disguised model after its states were added. -/
def disguisedEdits : List (Command String .str) :=
  [.edit (.setInit "a("), .edit (.setExit "a"),
    .edit (.addTransition "a(" "|" (some (.set ["=\"", ","]))),
    .edit (.addTransition "a(" ";" none), .edit (.addTransition "|" "a" none),
    .edit (.addTransition ";" "a" (some (.range "a" "b"))),
    .edit (.addTransition ";" "|" (some (.single "x")))]

lemma disguised_built : (disguised disguisedStates).Built :=
  ⟨[.edit (.addState "|"), .edit (.addState ";")] ++ disguisedEdits, rfl⟩

lemma disguised_reverse_built : (disguised disguisedStates.reverse).Built :=
  ⟨[.edit (.addState ";"), .edit (.addState "|")] ++ disguisedEdits, rfl⟩

/-- Declared in another order, the disguised states are the same and lead to the same places. -/
theorem fingerprint_faithful_disguised :
    (disguised disguisedStates).Built ∧ (disguised disguisedStates.reverse).Built ∧
      (disguised disguisedStates).fingerprint = (disguised disguisedStates.reverse).fingerprint ∧
      (∀ s ∈ (disguised disguisedStates).sources,
        ∀ s' ∈ (disguised disguisedStates.reverse).sources, s.value = s'.value → s.Agrees s') ∧
      ∀ v x, (disguised disguisedStates).next v x
        = (disguised disguisedStates.reverse).next v x := by
  have h : (disguised disguisedStates).fingerprint
      = (disguised disguisedStates.reverse).fingerprint :=
    fingerprint_eq_of_perm _ _ (List.reverse_perm disguisedStates).symm
  obtain ⟨-, -, -, hstates, hnext⟩ :=
    fingerprint_faithful (t := .str) disguised_built disguised_reverse_built h
  exact ⟨disguised_built, disguised_reverse_built, h, hstates, hnext⟩

end Model

end

end StateMachine
