import Reaching.Proofs.Document.System
import Reaching.Proofs.Solver.Convergence

/-! # From pass to pass no set shrinks

In the middle of a pass a set may lose definitions, when its data point is stored again.  At the
end of every pass it has all that it had at the end of the pass before, if no data point is
subtracted: the first pass starts from empty sets, and a whole pass is monotone.

`Growing` says this of the states that follow one another by `pass` from the seed, and that every
run of the solver goes through these states.  Main fact: `growing_of_constantSubtrahends`. -/
set_option autoImplicit false

namespace Reaching.Solver

/-- The states at the end of every pass, of which each data point has a part of its set in the
next. -/
structure Growing (scheme : Scheme) (equations : List Equation) (states : Nat → State) : Prop where
  start : states 0 = seed equations
  vacant : ∀ name ∈ targets equations, (states 0).get? name = some ∅
  follows : ∀ k, pass scheme equations (states k) = .ok (states (k + 1))
  grows : ∀ k, ∀ name ∈ targets equations, ∃ points more,
    (states k).get? name = some points ∧ (states (k + 1)).get? name = some more ∧ points ⊆ more
  visited : ∀ budget, ∃ run, iterate scheme equations budget (seed equations) = .ok run ∧
    ∀ k state, run.states[k]? = some state → state = states (k + 1)

section Closed

variable {equations : List Equation} (closed : Closed equations) (scheme : Scheme)

include closed

theorem get?_stateAfter (passes : Nat) {name : String} (target : name ∈ targets equations) :
    (stateAfter scheme equations passes).get? name =
      some ((stateAfter scheme equations passes).points name) := by
  apply State.get?_of_mem
  rw [names_stateAfter closed scheme passes]
  exact (mem_names_seed name equations).mpr target

/-- A run of any length goes through the states after each pass, in order. -/
theorem exists_iterate_stateAfter : ∀ budget made : Nat,
    ∃ run, iterate scheme equations budget (stateAfter scheme equations made) = .ok run ∧
      ∀ k state, run.states[k]? = some state →
        state = stateAfter scheme equations (made + k + 1) := by
  intro budget
  induction budget with
  | zero =>
      intro made
      refine ⟨⟨[], false⟩, rfl, fun k state found => ?_⟩
      simp at found
  | succ budget ih =>
      intro made
      have step := pass_stateAfter closed scheme made
      by_cases stable :
          stateAfter scheme equations (made + 1) = stateAfter scheme equations made
      · refine ⟨_, iterate_succ_eq_ok.mpr ⟨_, step, .inl ⟨stable, rfl⟩⟩, fun k state found => ?_⟩
        obtain ⟨rfl, rfl⟩ : k = 0 ∧ stateAfter scheme equations (made + 1) = state := by
          simpa [List.getElem?_cons, and_comm] using found
        rfl
      · obtain ⟨run, ran, visits⟩ := ih (made + 1)
        refine ⟨_, iterate_succ_eq_ok.mpr ⟨_, step, .inr ⟨stable, run, ran, rfl⟩⟩,
          fun k state found => ?_⟩
        cases k with
        | zero => exact (Option.some.inj found).symm
        | succ k =>
            rw [visits k state found]
            congr 1
            omega

variable (constant : ConstantSubtrahends equations)

include constant

theorem held_stateAfter_subset_succ (d : String) (passes : Nat) :
    (stateAfter scheme equations passes).held d ⊆
      (stateAfter scheme equations (passes + 1)).held d := by
  rw [held_stateAfter closed scheme, held_stateAfter closed scheme]
  exact iterate_subset_succ (passHeld_mono d scheme constant) passes

theorem growing_stateAfter : Growing scheme equations (stateAfter scheme equations) where
  start := rfl
  vacant name target := by
    rw [get?_stateAfter closed scheme 0 target]
    exact congrArg some (points_seed name equations)
  follows := pass_stateAfter closed scheme
  grows k name target := by
    refine ⟨_, _, get?_stateAfter closed scheme k target,
      get?_stateAfter closed scheme (k + 1) target, fun d member => ?_⟩
    exact held_stateAfter_subset_succ closed scheme constant d k member
  visited budget := by
    obtain ⟨run, ran, visits⟩ := exists_iterate_stateAfter closed scheme budget 0
    refine ⟨run, ran, fun k state found => ?_⟩
    rw [visits k state found, Nat.zero_add]

end Closed

theorem growing_of_constantSubtrahends :
    (∀ equations : List Equation, Closed equations → ConstantSubtrahends equations →
      ∀ scheme, ∃ states, Growing scheme equations states) ∧
    ∀ document : Source.Document, Closed document.system →
      ∀ scheme, ∃ states, Growing scheme document.system states := by
  constructor
  · intro equations closed constant scheme
    exact ⟨_, growing_stateAfter closed scheme constant⟩
  · intro document closed scheme
    have constant := Source.constantSubtrahends_system document
    exact ⟨_, growing_stateAfter closed scheme constant⟩

/-- The first equation for `L1` takes away, in every pass, what the second has stored. -/
def rewritten : List Equation :=
  [⟨"L1", .difference (.dataPoint "L2") (.set [.definition "d1", .definition "d2"])⟩,
    ⟨"L2", .union (.dataPoint "L1") (.set [.definition "d1"])⟩,
    ⟨"L1", .union (.dataPoint "L2") (.definition "d2")⟩]

theorem growing_of_constantSubtrahends_rewritten :
    Closed rewritten ∧ ConstantSubtrahends rewritten ∧
      ∃ states, Growing .inPlace rewritten states := by
  have closed : Closed rewritten := by decide
  have constant : ConstantSubtrahends rewritten := by decide
  exact ⟨closed, constant, growing_of_constantSubtrahends.1 rewritten closed constant .inPlace⟩

end Reaching.Solver
