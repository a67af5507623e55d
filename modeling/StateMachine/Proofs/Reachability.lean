import Mathlib.Data.Finset.Card
import Mathlib.Logic.Relation
import StateMachine.Proofs.Draft

/-!
# Reachability

Following edges round by round finds exactly the states at the end of a path. Every round but the
last finds a declared state that was not seen before, so the rounds suffice; and a path of edges
from the initial state never leaves the declared states before its end, so it does not matter that
the search passes over the exit.
-/

namespace StateMachine

variable {σ : Type} {k : Kind} [DecidableEq σ]

/-! ### Exploring -/

section

variable {next : σ → List σ} {seen : List σ} {s : σ}

lemma mem_frontier_iff : s ∈ frontier next seen ↔ (∃ a ∈ seen, s ∈ next a) ∧ s ∉ seen := by
  simp [frontier, List.mem_eraseDups]

lemma subset_explore (next : σ → List σ) (fuel : Nat) (seen : List σ) :
    seen ⊆ explore next fuel seen := by
  induction fuel generalizing seen with
  | zero => exact List.Subset.refl seen
  | succ fuel ih =>
    rw [explore]
    split
    · exact List.Subset.refl seen
    · exact List.Subset.trans (List.subset_append_left _ _) (ih _)

/-- Whatever is found is at the end of a path. -/
lemma exists_path_of_mem_explore {fuel : Nat} (hs : s ∈ explore next fuel seen) :
    ∃ a ∈ seen, Relation.ReflTransGen (fun a b => b ∈ next a) a s := by
  induction fuel generalizing seen with
  | zero => exact ⟨s, hs, .refl⟩
  | succ fuel ih =>
    rw [explore] at hs
    split at hs
    · exact ⟨s, hs, .refl⟩
    · obtain ⟨b, hb, hpath⟩ := ih hs
      rcases List.mem_append.mp hb with hb | hb
      · exact ⟨b, hb, hpath⟩
      · obtain ⟨⟨a, ha, hab⟩, -⟩ := mem_frontier_iff.mp hb
        exact ⟨a, ha, .head hab hpath⟩

/-- With more rounds than states that are left, what is found is closed under `next`. -/
lemma explore_closed {all : List σ} (hall : ∀ a, next a ⊆ all) {fuel : Nat}
    (hfuel : (all.toFinset \ seen.toFinset).card < fuel) {a b : σ}
    (ha : a ∈ explore next fuel seen) (hb : b ∈ next a) : b ∈ explore next fuel seen := by
  induction fuel generalizing seen with
  | zero => cases hfuel
  | succ fuel ih =>
    rw [explore] at ha ⊢
    split at ha
    · next hempty =>
      rw [if_pos hempty]
      by_contra hnew
      have hfresh : b ∈ frontier next seen := mem_frontier_iff.mpr ⟨⟨a, ha, hb⟩, hnew⟩
      rw [List.isEmpty_iff.mp hempty] at hfresh
      cases hfresh
    · next hempty =>
      rw [if_neg hempty]
      refine ih ?_ ha
      -- a state of the frontier is seen now and was left before
      obtain ⟨c, hc⟩ := List.exists_mem_of_ne_nil _ fun h => hempty (List.isEmpty_iff.mpr h)
      obtain ⟨⟨a', ha', hc'⟩, hnew⟩ := mem_frontier_iff.mp hc
      have hlt : (all.toFinset \ (seen ++ frontier next seen).toFinset).card
          < (all.toFinset \ seen.toFinset).card := by
        apply Finset.card_lt_card
        rw [Finset.ssubset_iff_of_subset]
        · exact ⟨c, by simp [hall a' hc', hnew], by simp [hc]⟩
        · intro x hx
          simp only [List.toFinset_append, Finset.mem_sdiff, Finset.mem_union, not_or] at hx ⊢
          exact ⟨hx.1, hx.2.1⟩
      omega

/-- With more rounds than states that are left, exactly the ends of paths are found. -/
lemma mem_explore_iff {all : List σ} (hall : ∀ a, next a ⊆ all) {fuel : Nat}
    (hfuel : (all.toFinset \ seen.toFinset).card < fuel) :
    s ∈ explore next fuel seen ↔
      ∃ a ∈ seen, Relation.ReflTransGen (fun a b => b ∈ next a) a s := by
  constructor
  · exact exists_path_of_mem_explore
  · rintro ⟨a, ha, hpath⟩
    induction hpath with
    | refl => exact subset_explore next fuel seen ha
    | tail _ hstep ih => exact explore_closed hall hfuel ih hstep

end

/-! ### Paths of edges -/

namespace Draft

variable {d : Draft σ k} {s t start : σ}

/-- An edge, conditional or not, leads from one state to another. -/
def Leads (d : Draft σ k) (s t : σ) : Prop := ∃ e, d.edges.find? s = some e ∧ t ∈ e.targets

/-- A path of edges leads from one state to another. -/
def Reachable (d : Draft σ k) : σ → σ → Prop := Relation.ReflTransGen d.Leads

lemma mem_successors_iff : t ∈ d.successors s ↔ d.Leads s t ∧ t ∈ d.states := by
  rw [successors, Leads]
  cases d.edges.find? s with
  | none => simp
  | some e => simp

/-- States with edges that lead on are the initial state or declared ones. -/
lemma Consistent.isSource_of_leads (hd : d.Consistent) (h : d.Leads s t) : d.IsSource s := by
  obtain ⟨e, he, -⟩ := h
  rw [← hd.isSome_find?_iff, he]
  rfl

/-- On the way to a declared state a path passes through declared states only. -/
lemma Consistent.path_of_reachable (hd : d.Consistent) (hstart : d.init = some start)
    (h : d.Reachable start t) (ht : t ∈ d.states) :
    Relation.ReflTransGen (fun a b => b ∈ d.successors a) start t := by
  induction h with
  | refl => exact .refl
  | tail _ hstep ih =>
    rename_i b c _
    rcases hd.isSource_of_leads hstep with hb | hb
    · -- the last edge leaves from the initial state
      obtain rfl : start = b := Option.some.inj (hstart.symm.trans hb)
      exact .single (mem_successors_iff.mpr ⟨hstep, ht⟩)
    · exact (ih hb).tail (mem_successors_iff.mpr ⟨hstep, ht⟩)

lemma Consistent.mem_reached_iff (hd : d.Consistent) (hstart : d.init = some start)
    (ht : t ∈ d.states) : t ∈ d.reached start ↔ d.Reachable start t := by
  have hall : ∀ a, d.successors a ⊆ d.states := fun a b hb => (mem_successors_iff.mp hb).2
  have hfuel : (d.states.toFinset \ [start].toFinset).card < d.states.length + 1 := by
    have hle := Finset.card_le_card (Finset.sdiff_subset (s := d.states.toFinset)
      (t := [start].toFinset))
    have hlength := List.toFinset_card_le d.states
    omega
  rw [reached, mem_explore_iff hall hfuel]
  simp only [List.mem_singleton, exists_eq_left]
  constructor
  · apply Relation.ReflTransGen.mono
    intro a b hab
    exact (mem_successors_iff.mp hab).1
  · intro h
    exact hd.path_of_reachable hstart h ht

/-- Exactly the declared states without a path to them are reported. -/
lemma Consistent.mem_unreached_iff (hd : d.Consistent) (hstart : d.init = some start) :
    s ∈ d.unreached start ↔ s ∈ d.states ∧ ¬ d.Reachable start s := by
  simp only [unreached, List.mem_filter, decide_eq_true_eq]
  exact and_congr_right fun hs => not_congr (hd.mem_reached_iff hstart hs)

/-- The check passes exactly if every declared state can be reached, or need not be. -/
lemma Consistent.checkReachability_eq_ok_iff [Label σ] (hd : d.Consistent)
    (hstart : d.init = some start) :
    (d.checkReachability start).result = .ok () ↔
      d.allowUnreachable = true ∨ ∀ s ∈ d.states, d.Reachable start s := by
  have hnil : d.unreached start = [] ↔ ∀ s ∈ d.states, d.Reachable start s := by
    rw [List.eq_nil_iff_forall_not_mem]
    refine forall_congr' fun s => ?_
    rw [hd.mem_unreached_iff hstart, not_and, not_not]
  rw [checkReachability, ← hnil]
  split_ifs with hallow
  · simp [hallow]
  · cases d.unreached start with
    | nil => simp
    | cons s rest => simp [Logged.fail, hallow]

end Draft

end StateMachine
