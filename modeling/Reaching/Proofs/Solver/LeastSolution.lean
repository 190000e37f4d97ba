import Mathlib
import Reaching.Proofs.Document.System
import Reaching.Proofs.Solver.Convergence

/-! # The least solution of a system

`LeastHeld` says of the data points that hold one definition that they satisfy every equation and
are part of every set that no equation leads out of.  `solve_spec`: this is what the result of a
closed system with distinct targets holds, for every definition, if no data point is subtracted.

`Bounds` says that a state over the targets is a bound of the equations: the value of each in that
state is part of what the state holds for its target.  `IsLeastSolution` says that a state
satisfies every equation exactly and is below every bound.

Main fact: `solve_isLeastSolution` (the least solution is the result, under both schemes). -/
set_option autoImplicit false

namespace Reaching.Solver

/-! ## One definition -/

structure LeastHeld (d : String) (equations : List Equation) (held : Set String) : Prop where
  satisfied : ∀ equation ∈ equations, equation.target ∈ held ↔ equation.value.Yields d held
  least : ∀ bound : Set String,
    (∀ equation ∈ equations, equation.value.Yields d bound → equation.target ∈ bound) →
      held ⊆ bound

theorem LeastHeld.unique {d : String} {equations : List Equation} {held other : Set String}
    (least : LeastHeld d equations held) (same : LeastHeld d equations other) : held = other := by
  apply Set.Subset.antisymm
  · exact least.least other fun equation member => (same.satisfied equation member).mpr
  · exact same.least held fun equation member => (least.satisfied equation member).mpr

section Settled

variable {equations : List Equation} (closed : Closed equations) {scheme : Scheme}

include closed

theorem passHeld_of_settlesAt {last : Nat} (settles : SettlesAt scheme equations last)
    (d : String) :
    passHeld d scheme equations ((stateAfter scheme equations last).held d) =
      (stateAfter scheme equations last).held d := by
  have covers := covers_stateAfter closed scheme last
  rw [← (advance_spec scheme covers).2.2 d, ← stateAfter_succ, settles.unchanged]

/-- No pass leads out of a set that no equation leads out of. -/
theorem held_stateAfter_subset_bound (constant : ConstantSubtrahends equations) {d : String}
    {bound : Set String}
    (led : ∀ equation ∈ equations, equation.value.Yields d bound → equation.target ∈ bound) :
    ∀ passes, (stateAfter scheme equations passes).held d ⊆ bound := by
  intro passes
  induction passes with
  | zero =>
      rw [held_stateAfter closed]
      exact Set.empty_subset bound
  | succ passes ih =>
      have covers := covers_stateAfter closed scheme passes
      rw [stateAfter_succ, (advance_spec scheme covers).2.2 d]
      exact passHeld_subset scheme constant led ih

theorem leastHeld_of_settlesAt (distinct : (targets equations).Nodup)
    (constant : ConstantSubtrahends equations) {last : Nat}
    (settles : SettlesAt scheme equations last) (d : String) :
    LeastHeld d equations ((stateAfter scheme equations last).held d) where
  satisfied := mem_iff_of_passHeld_eq equations distinct (passHeld_of_settlesAt closed settles d)
  least _ led := held_stateAfter_subset_bound closed constant led last

theorem solve_spec (distinct : (targets equations).Nodup) (constant : ConstantSubtrahends equations)
    (scheme : Scheme) :
    ∃ result, solve scheme equations = .ok (some result) ∧
      result.solution.names = (seed equations).names ∧
        ∀ d, LeastHeld d equations (result.solution.held d) := by
  obtain ⟨last, within, settles⟩ := exists_settlesAt closed constant scheme
  have enough := settling_lt_stateCount closed constant settles within
  exact ⟨_, solve_of_settlesAt closed scheme settles enough, names_stateAfter closed scheme last,
    leastHeld_of_settlesAt closed distinct constant settles⟩

end Settled

/-! ## All definitions at once -/

def Bounds (equations : List Equation) (state : State) : Prop :=
  (∀ name, name ∈ state.names ↔ name ∈ targets equations) ∧
    ∀ equation ∈ equations, ∃ value points, evaluate state equation.value = .ok value ∧
      state.get? equation.target = some points ∧ value ⊆ points

structure IsLeastSolution (equations : List Equation) (solution : State) : Prop where
  names : ∀ name, name ∈ solution.names ↔ name ∈ targets equations
  satisfied : ∀ equation ∈ equations, ∃ points,
    solution.get? equation.target = some points ∧ evaluate solution equation.value = .ok points
  least : ∀ bound, Bounds equations bound → ∀ name, solution.points name ⊆ bound.points name

def SolvedByLeast (equations : List Equation) : Prop :=
  ∃ solution, IsLeastSolution equations solution ∧
    ∀ scheme, ∃ result, solve scheme equations = .ok (some result) ∧ result.solution = solution

section Least

variable {equations : List Equation} (closed : Closed equations)

include closed

theorem Bounds.led {bound : State} (bounds : Bounds equations bound) (d : String) :
    ∀ equation ∈ equations,
      equation.value.Yields d (bound.held d) → equation.target ∈ bound.held d := by
  intro equation member yields
  have covers : bound.Covers equations := closed.covers fun name => (bounds.1 name).mpr
  obtain ⟨value, points, evaluated, stored, below⟩ := bounds.2 equation member
  obtain ⟨same, again, yielded⟩ := evaluate_spec equation.value (covers equation member).2
  obtain rfl : value = same := Except.ok.inj (evaluated.symm.trans again)
  have target : bound.points equation.target = points := by
    rw [State.points, stored, Option.getD_some]
  rw [State.mem_held, target]
  exact below d ((yielded d).mpr yields)

theorem isLeastSolution_of_leastHeld {solution : State}
    (names : solution.names = (seed equations).names)
    (least : ∀ d, LeastHeld d equations (solution.held d)) : IsLeastSolution equations solution := by
  have mem_names : ∀ name, name ∈ solution.names ↔ name ∈ targets equations := by
    intro name
    rw [names]
    exact mem_names_seed name equations
  refine ⟨mem_names, ?_, ?_⟩
  · intro equation member
    have covers := closed.covers (fun name => (mem_names name).mpr) equation member
    obtain ⟨points, value, yielded⟩ := evaluate_spec equation.value covers.2
    have stored : solution.points equation.target = points := by
      refine PointSet.ext fun d => ?_
      rw [yielded d]
      exact (least d).satisfied equation member
    exact ⟨points, stored ▸ State.get?_of_mem covers.1, value⟩
  · intro bound bounds name d member
    exact (least d).least (bound.held d) (bounds.led closed d) member

theorem solvedByLeast (distinct : (targets equations).Nodup)
    (constant : ConstantSubtrahends equations) : SolvedByLeast equations := by
  obtain ⟨result, _, names, least⟩ := solve_spec closed distinct constant .inPlace
  refine ⟨result.solution, isLeastSolution_of_leastHeld closed names least, fun scheme => ?_⟩
  obtain ⟨other, solved, others, same⟩ := solve_spec closed distinct constant scheme
  refine ⟨other, solved, State.ext_held (others.trans names.symm) fun d => ?_⟩
  exact (same d).unique (least d)

end Least

theorem solve_isLeastSolution :
    (∀ equations : List Equation, (targets equations).Nodup → Closed equations →
      ConstantSubtrahends equations → SolvedByLeast equations) ∧
    ∀ document : Source.Document, (targets document.system).Nodup → Closed document.system →
      SolvedByLeast document.system := by
  refine ⟨fun equations distinct closed constant => solvedByLeast closed distinct constant, ?_⟩
  intro document distinct closed
  exact solvedByLeast closed distinct (Source.constantSubtrahends_system document)

def feedback : List Equation :=
  [⟨"L1", .union (.difference (.dataPoint "L2") (.set [.definition "d2"])) (.definition "d1")⟩,
    ⟨"L2", .body (.set [.dataPoint "L1", .dataPoint "L2", .definition "d2"])⟩]

theorem solve_isLeastSolution_feedback :
    (targets feedback).Nodup ∧ Closed feedback ∧ ConstantSubtrahends feedback ∧
      SolvedByLeast feedback := by
  have distinct : (targets feedback).Nodup := by decide
  have closed : Closed feedback := by decide
  have constant : ConstantSubtrahends feedback := by decide
  exact ⟨distinct, closed, constant, solve_isLeastSolution.1 feedback distinct closed constant⟩

end Reaching.Solver
