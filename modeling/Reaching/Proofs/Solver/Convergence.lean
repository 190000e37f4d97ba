import Mathlib
import Reaching.Proofs.Solver.Rounds

/-! # Systems that subtract no data point settle

For one definition, the data points that hold it after each pass are the iterates of a monotone map
from the empty set.  They grow until they grow no more, so they change no more often than there are
data points for them to gain (`iterate_stable_of_news`), and they stand still after as many passes as
there are targets (`iterate_stable`).  As this holds for every definition at once, so does the state:
`exists_settlesAt` gives the bound, and `settling_lt_stateCount` says that a run with one pass for
each possible state is long enough. -/
set_option autoImplicit false

namespace Reaching.Solver

/-! ## Iterates of a monotone map from the empty set -/

section Iterates

variable {α : Type} {F : Set α → Set α} (mono : Monotone F)

include mono

theorem iterate_subset_succ (k : Nat) : F^[k] ∅ ⊆ F^[k + 1] ∅ :=
  mono.monotone_iterate_of_le_map (Set.empty_subset (F ∅)) (Nat.le_succ k)

/-- From `first` on, each change so far has added an element of `whole` that was not there. -/
theorem lt_ncard_of_changed {first : Nat} {whole : Finset α}
    (news : ∀ k, first ≤ k → F^[k + 1] ∅ ≠ F^[k] ∅ → ∃ a ∈ whole, a ∈ F^[k + 1] ∅ ∧ a ∉ F^[k] ∅) :
    ∀ more, F^[first + more + 1] ∅ ≠ F^[first + more] ∅ →
      more < (F^[first + more + 1] ∅ ∩ whole).ncard := by
  have finite : ∀ k, (F^[k] ∅ ∩ whole).Finite := fun k => whole.finite_toSet.inter_of_right _
  intro more
  induction more with
  | zero =>
      intro changed
      obtain ⟨a, among, present, _⟩ := news first le_rfl changed
      exact (Set.ncard_pos (finite _)).mpr ⟨a, present, Finset.mem_coe.mpr among⟩
  | succ more ih =>
      intro changed
      have before : F^[first + more + 1] ∅ ≠ F^[first + more] ∅ := by
        intro same
        apply changed
        calc F^[first + (more + 1) + 1] ∅ = F (F^[first + more + 1] ∅) :=
            Function.iterate_succ_apply' F (first + more + 1) ∅
          _ = F (F^[first + more] ∅) := by rw [same]
          _ = F^[first + (more + 1)] ∅ := (Function.iterate_succ_apply' F (first + more) ∅).symm
      obtain ⟨a, among, present, absent⟩ := news _ (Nat.le_add_right first (more + 1)) changed
      have grown : F^[first + more + 1] ∅ ∩ whole ⊂ F^[first + (more + 1) + 1] ∅ ∩ whole := by
        refine ⟨Set.inter_subset_inter_left _ (iterate_subset_succ mono _), fun within => ?_⟩
        exact absent (within ⟨present, Finset.mem_coe.mpr among⟩).1
      exact Nat.lt_of_le_of_lt (ih before) (Set.ncard_lt_ncard grown (finite _))

/-- If from `first` on every change adds an element of `whole`, the iterates stand still after as many
more steps as `whole` has elements. -/
theorem iterate_stable_of_news (first : Nat) (whole : Finset α)
    (news : ∀ k, first ≤ k → F^[k + 1] ∅ ≠ F^[k] ∅ → ∃ a ∈ whole, a ∈ F^[k + 1] ∅ ∧ a ∉ F^[k] ∅)
    {k : Nat} (enough : first + whole.card ≤ k) : F^[k + 1] ∅ = F^[k] ∅ := by
  obtain ⟨more, rfl⟩ := Nat.exists_eq_add_of_le ((Nat.le_add_right first _).trans enough)
  by_contra changed
  have many := lt_ncard_of_changed mono news more changed
  have few : (F^[first + more + 1] ∅ ∩ whole).ncard ≤ whole.card := by
    rw [← Set.ncard_coe_finset whole]
    exact Set.ncard_le_ncard Set.inter_subset_right whole.finite_toSet
  omega

/-- The iterates stand still after as many steps as there are elements. -/
theorem iterate_stable (whole : Finset α) (inside : ∀ k, F^[k] ∅ ⊆ (whole : Set α)) {k : Nat}
    (enough : whole.card ≤ k) : F^[k + 1] ∅ = F^[k] ∅ := by
  refine iterate_stable_of_news mono 0 whole ?_ (by rwa [Nat.zero_add])
  intro k _ changed
  obtain ⟨a, present, absent⟩ := Set.exists_of_ssubset
    ((iterate_subset_succ mono k).ssubset_of_ne (Ne.symm changed))
  exact ⟨a, inside (k + 1) present, present, absent⟩

end Iterates

section Settling

variable {equations : List Equation} (closed : Closed equations)
  (constant : ConstantSubtrahends equations) (scheme : Scheme)

include closed

theorem held_stateAfter_subset (d : String) (passes : Nat) :
    (stateAfter scheme equations passes).held d ⊆ ((targets equations).toFinset : Set String) := by
  intro name member
  have present := State.held_subset_names d _ member
  change name ∈ (stateAfter scheme equations passes).names at present
  rw [names_stateAfter closed scheme passes, mem_names_seed] at present
  exact Finset.mem_coe.mpr (List.mem_toFinset.mpr present)

include constant

theorem stateAfter_stable {passes : Nat} (enough : (targets equations).toFinset.card ≤ passes) :
    stateAfter scheme equations (passes + 1) = stateAfter scheme equations passes := by
  apply State.ext_held
  · rw [names_stateAfter closed scheme, names_stateAfter closed scheme]
  · intro d
    rw [held_stateAfter closed scheme, held_stateAfter closed scheme]
    refine iterate_stable (passHeld_mono d scheme constant) (targets equations).toFinset ?_ enough
    intro k
    rw [← held_stateAfter closed scheme]
    exact held_stateAfter_subset closed scheme d k

theorem exists_settlesAt :
    ∃ last, last ≤ (targets equations).toFinset.card ∧ SettlesAt scheme equations last := by
  classical
  have settles : ∃ last, stateAfter scheme equations (last + 1) = stateAfter scheme equations last :=
    ⟨_, stateAfter_stable closed constant scheme le_rfl⟩
  refine ⟨Nat.find settles, Nat.find_min' settles ?_, Nat.find_spec settles, ?_⟩
  · exact stateAfter_stable closed constant scheme le_rfl
  · exact fun k before => Nat.find_min settles before

end Settling

/-! ## Enough passes for every state -/

theorem card_targets (equations : List Equation) :
    (targets equations).toFinset.card = (seed equations).entries.length := by
  have same : (targets equations).toFinset = (seed equations).names.toFinset := by
    ext name
    rw [List.mem_toFinset, List.mem_toFinset, mem_names_seed]
  have distinct : (seed equations).names.Nodup := (seed equations).nodup
  rw [same, List.toFinset_card_of_nodup distinct, State.names, List.length_map]

/-- In a system without definitions nothing is ever held. -/
theorem passHeld_empty {equations : List Equation} (constant : ConstantSubtrahends equations)
    (d : String) (scheme : Scheme)
    (unwritten : ∀ equation ∈ equations, d ∉ definitionsIn equation.value) :
    passHeld d scheme equations ∅ = ∅ := by
  apply Set.subset_empty_iff.mp
  refine passHeld_subset scheme constant ?_ (Set.empty_subset ∅)
  intro equation member yields
  rcases Node.mem_definitionsIn_of_yields equation.value yields with written | ⟨_, nothing⟩
  · exact absurd written (unwritten equation member)
  · exact nothing.elim

theorem settling_lt_stateCount {equations : List Equation} (closed : Closed equations)
    (constant : ConstantSubtrahends equations) {scheme : Scheme} {last : Nat}
    (settles : SettlesAt scheme equations last)
    (within : last ≤ (targets equations).toFinset.card) : last < stateCount equations := by
  rcases Nat.eq_zero_or_pos last with rfl | positive
  · exact Nat.pow_pos (by decide)
  -- The first pass has changed something, so some definition is written.
  have changed := settles.changing 0 positive
  have written : ∃ d, ∃ equation ∈ equations, d ∈ definitionsIn equation.value := by
    by_contra none
    apply changed
    apply State.ext_held
    · rw [names_stateAfter closed scheme, names_stateAfter closed scheme]
    · intro d
      rw [held_stateAfter closed scheme, held_stateAfter closed scheme]
      exact passHeld_empty constant d scheme fun equation member here =>
        none ⟨d, equation, member, here⟩
  obtain ⟨d, equation, member, here⟩ := written
  have some : 1 ≤ (PointSet.ofList (equations.flatMap (definitionsIn ·.value))).names.length := by
    have there : d ∈ PointSet.ofList (equations.flatMap (definitionsIn ·.value)) :=
      (PointSet.mem_ofList d _).mpr (List.mem_flatMap.mpr ⟨equation, member, here⟩)
    exact List.length_pos_of_mem there
  calc last ≤ (seed equations).entries.length := card_targets equations ▸ within
    _ < Nat.pow 2 (seed equations).entries.length := Nat.lt_two_pow_self
    _ ≤ stateCount equations := by
        apply Nat.pow_le_pow_right (by decide)
        exact Nat.le_mul_of_pos_right _ some

end Reaching.Solver
