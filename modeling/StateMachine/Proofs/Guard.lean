import StateMachine.Proofs.Fingerprint
import StateMachine.Proofs.Rearrangement

/-!
# Equality, matching and rendering of guards

Guards are compared symbol by symbol, made from lists by dropping repeats, checked by counting, and
rendered by sorting texts. All of it is about the same thing: in which form a guard names which
classes of symbols.
-/

namespace StateMachine

open Text

variable {k : Kind}

/-- Dropping repeats leaves one symbol for each class. -/
lemma length_distinct (vs : List (Symbol k)) :
    (distinct vs).length = (Symbol.classes vs).ncard := by
  have hrep := represents_distinct vs
  exact (Symbol.ncard_classes hrep.pairwise hrep.exists_same_iff).symm

namespace Guard

lemma equivalence_equiv : Equivalence (fun g g' : Guard k => g.equiv g' = true) where
  refl _ := equiv_iff.mpr rfl
  symm h := equiv_symm h
  trans h h' := equiv_iff.mpr ((equiv_iff.mp h).trans (equiv_iff.mp h'))

lemma equiv_of_canonical_eq {g g' : Guard k} (h : g.canonical = g'.canonical) :
    g.equiv g' = true := by
  have happend : g.canonical.toList ++ [] = g'.canonical.toList ++ [] := by rw [h]
  exact (canonical_append_inj follows_nil follows_nil happend).1

lemma fault?_set (vs : List (Symbol k)) :
    (set vs).fault? = if (Symbol.classes vs).ncard < 2
      then some (.degenerateSet (Symbol.classes vs).ncard) else none := by
  rw [fault?, length_distinct]

/-- A list makes a well-formed guard unless it is empty: one distinct symbol is no set. -/
lemma fault?_ofValues_eq_none_iff {vs : List (Symbol k)} :
    (ofValues vs).fault? = none ↔ vs ≠ [] := by
  have hrep := represents_distinct vs
  rw [fault?_eq_none_iff_wellFormed, ofValues]
  rcases hvs : distinct vs with _ | ⟨a, _ | ⟨b, ws⟩⟩ <;> rw [hvs] at hrep
  · have hempty : vs = [] := by
      apply List.eq_nil_iff_forall_not_mem.mpr
      intro v hv
      obtain ⟨w, hw, -⟩ := hrep.covers v hv
      simp at hw
    simp [WellFormed, hempty]
  · exact iff_of_true trivial (List.ne_nil_of_mem (hrep.subset a (by simp)))
  · have hne := (List.pairwise_cons.mp hrep.pairwise).1 b (by simp)
    exact iff_of_true ⟨a, by simp, b, by simp, hne⟩ (List.ne_nil_of_mem (hrep.subset a (by simp)))

/-- Equality of guards is an equivalence; equal guards accept the same symbols and are rendered
alike, and only equal guards are. A guard made from a list accepts what is the same as a member and
is well formed unless the list is empty, and a set is well formed unless there are less than two
classes in it, which is then what is reported. -/
theorem equality_coheres (k : Kind) :
    Equivalence (fun g g' : Guard k => (g == g') = true) ∧
      (∀ g g' : Guard k, (g == g') = true →
        (∀ x, g.accepts x = g'.accepts x) ∧ g.canonical = g'.canonical) ∧
      (∀ g g' : Guard k, g.canonical = g'.canonical → (g == g') = true) ∧
      (∀ vs : List (Symbol k),
        (∀ x, (ofValues vs).accepts x = true ↔ ∃ v ∈ vs, v.same x = true) ∧
          ((ofValues vs).fault? = none ↔ vs ≠ [])) ∧
      ∀ vs : List (Symbol k), (set vs).fault? = if (Symbol.classes vs).ncard < 2
        then some (.degenerateSet (Symbol.classes vs).ncard) else none := by
  refine ⟨equivalence_equiv, ?_, ?_, ?_, fault?_set⟩
  · intro g g' h
    exact ⟨accepts_eq_of_equiv h, canonical_eq_of_equiv h⟩
  · intro g g' h
    exact equiv_of_canonical_eq h
  · intro vs
    exact ⟨fun x => accepts_ofValues, fault?_ofValues_eq_none_iff⟩

/-- Sets in another order and with repeats, of texts that look like several, and of NaNs that differ
in sign and payload. -/
theorem equality_coheres_repeats :
    (set [",", "\",\"", ","] : Guard .str).canonical = (set ["\",\"", ","] : Guard .str).canonical ∧
      ((set [",", "\",\"", ","] : Guard .str) == set ["\",\"", ","]) = true ∧
      (∀ x, (set [",", "\",\"", ","] : Guard .str).accepts x
        = (set ["\",\"", ","] : Guard .str).accepts x) ∧
      (set [⟨0x7F800001⟩, ⟨0xFFC00000⟩] : Guard .f32).canonical
        = (set [⟨0x7FC00000⟩] : Guard .f32).canonical := by
  have hcanonical : (set [",", "\",\"", ","] : Guard .str).canonical
      = (set ["\",\"", ","] : Guard .str).canonical := canonical_eq_of_equiv (by decide)
  have hequal := (equality_coheres .str).2.2.1 _ _ hcanonical
  obtain ⟨haccepts, -⟩ := (equality_coheres .str).2.1 _ _ hequal
  obtain ⟨-, hnan⟩ := (equality_coheres .f32).2.1 (set [⟨0x7F800001⟩, ⟨0xFFC00000⟩])
    (set [⟨0x7FC00000⟩]) (by decide)
  exact ⟨hcanonical, hequal, haccepts, hnan⟩

end Guard

end StateMachine
