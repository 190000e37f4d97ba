import Reaching.Proofs.Solver.Growth
import Reaching.Proofs.Solver.Loop

/-! # The states that a run keeps

A result keeps the state after each pass, in order; the last pass only confirms, so the last of them
is the solution.  All have the data points of the solution, and if no data point is subtracted, a part
of its points, as no set shrinks from pass to pass.

Main facts: `exists_returns` and `recorded_of_returns`. -/
set_option autoImplicit false

namespace Reaching.Solver

variable {scheme : Scheme} {equations : List Equation} {result : Result}

theorem exists_returns (closed : Closed equations) (constant : ConstantSubtrahends equations)
    (scheme : Scheme) : ∃ result, Returns scheme equations result := by
  obtain ⟨last, _, settles⟩ := exists_settlesAt closed constant scheme
  exact ⟨_, returns_iff_settlesAt.mpr ⟨closed, last, settles, rfl⟩⟩

theorem Returns.unique {other : Result} (returns : Returns scheme equations result)
    (also : Returns scheme equations other) : result = other := by
  rw [returns_iff_solve] at returns also
  exact Option.some.inj (Except.ok.inj (returns.symm.trans also))

structure Recorded (result : Result) : Prop where
  length : result.snapshots.length = result.passes
  final : result.snapshots.getLast? = some result.solution
  names : ∀ state ∈ result.snapshots, state.names = result.solution.names
  points : ∀ state ∈ result.snapshots, ∀ name, state.points name ⊆ result.solution.points name

theorem held_stateAfter_subset_of_le (closed : Closed equations)
    (constant : ConstantSubtrahends equations) (d : String) {earlier later : Nat}
    (within : earlier ≤ later) :
    (stateAfter scheme equations earlier).held d ⊆ (stateAfter scheme equations later).held d :=
  monotone_nat_of_le_succ (held_stateAfter_subset_succ closed scheme constant d) within

theorem recorded_of_returns (constant : ConstantSubtrahends equations)
    (returns : Returns scheme equations result) : Recorded result := by
  obtain ⟨closed, last, settles, rfl⟩ := returns_iff_settlesAt.mp returns
  have kept : ∀ state ∈ (settledRun scheme equations last).states,
      ∃ passes ≤ last + 1, state = stateAfter scheme equations passes := by
    intro state member
    obtain ⟨passes, among, rfl⟩ := List.mem_map.mp member
    have within := (List.mem_range'_1.mp among).2
    exact ⟨passes, by omega, rfl⟩
  constructor
  · rw [settledRun, List.length_map, List.length_range']
  · rw [settledRun, List.range'_1_concat, List.map_append, List.map_singleton,
      List.getLast?_concat, Nat.add_comm 1 last, settles.unchanged]
  · intro state member
    obtain ⟨passes, _, rfl⟩ := kept state member
    rw [names_stateAfter closed, names_stateAfter closed]
  · intro state member name d present
    obtain ⟨passes, within, rfl⟩ := kept state member
    have more : name ∈ (stateAfter scheme equations (last + 1)).held d :=
      held_stateAfter_subset_of_le closed constant d within present
    rw [settles.unchanged] at more
    exact more

end Reaching.Solver
