import Reaching.Proofs.Solver.Alike
import Reaching.Proofs.Solver.LeastSolution

/-! # Equations in another order

Under `jacobi` all equations of a pass read the state at the start of it.  If the targets are
distinct, each of them ends the pass with what its one equation yields there, wherever that equation
stands (`mem_storesHeld_jacobi`).  So the runs of a system and of a permutation of it go through
states that are alike, pass after pass and whether or not they settle (`stateAfter_jacobi_of_perm`).

In place an equation reads what the equations before it have stored, and the states on the way
depend on the order.  Where the runs end does not, if no data point is subtracted: the least solution
is defined by the equations alone (`LeastHeld.of_perm`).

Main fact: `order_of_equations_immaterial`. -/
set_option autoImplicit false

namespace Reaching.Solver

/-! ## Permuted systems -/

section Perm

variable {equations others : List Equation} (permuted : equations.Perm others)

include permuted

theorem targets_perm : (targets equations).Perm (targets others) := permuted.map Equation.target

theorem mem_names_seed_of_perm (name : String) :
    name ∈ (seed equations).names ↔ name ∈ (seed others).names := by
  rw [mem_names_seed, mem_names_seed]
  exact (targets_perm permuted).mem_iff

theorem Closed.of_perm (closed : Closed equations) : Closed others := by
  intro equation member name reference
  have target := closed equation (permuted.mem_iff.mpr member) name reference
  exact (targets_perm permuted).mem_iff.mp target

theorem ConstantSubtrahends.of_perm (constant : ConstantSubtrahends equations) :
    ConstantSubtrahends others :=
  fun equation member => constant equation (permuted.mem_iff.mpr member)

theorem LeastHeld.of_perm {d : String} {held : Set String} (least : LeastHeld d equations held) :
    LeastHeld d others held where
  satisfied equation member := least.satisfied equation (permuted.mem_iff.mpr member)
  least bound led :=
    least.least bound fun equation member => led equation (permuted.mem_iff.mp member)

end Perm

/-! ## Passes under `jacobi` -/

/-- A target ends the pass with what its equation yields at the start of it. -/
theorem mem_storesHeld_jacobi {d : String} {start : Set String} {equation : Equation} :
    ∀ (equations : List Equation) (soFar : Set String), (targets equations).Nodup →
      equation ∈ equations →
        (equation.target ∈ storesHeld d .jacobi start equations soFar ↔
          equation.value.Yields d start) := by
  intro equations
  induction equations with
  | nil => intro _ _ member; simp at member
  | cons first rest ih =>
      intro soFar distinct member
      rw [targets, List.map_cons, List.nodup_cons] at distinct
      rcases List.mem_cons.mp member with rfl | later
      · exact mem_storesHeld_target d .jacobi start distinct.1 soFar
      · rw [storesHeld]
        exact ih _ distinct.2 later

section Runs

variable {equations others : List Equation} (permuted : equations.Perm others)
  (distinct : (targets equations).Nodup)

include permuted distinct

theorem passHeld_jacobi_of_perm (d : String) :
    passHeld d .jacobi equations = passHeld d .jacobi others := by
  have apart : (targets others).Nodup := (targets_perm permuted).nodup_iff.mp distinct
  funext held
  ext name
  by_cases target : name ∈ targets equations
  · obtain ⟨equation, member, rfl⟩ := List.mem_map.mp target
    rw [passHeld, mem_storesHeld_jacobi equations held distinct member]
    exact (mem_storesHeld_jacobi others held apart (permuted.mem_iff.mp member)).symm
  · have absent : name ∉ targets others :=
      fun there => target ((targets_perm permuted).mem_iff.mpr there)
    rw [passHeld, mem_storesHeld_of_notMem d .jacobi held name equations held target]
    exact (mem_storesHeld_of_notMem d .jacobi held name others held absent).symm

theorem stateAfter_jacobi_of_perm (closed : Closed equations) (passes : Nat) :
    (stateAfter .jacobi equations passes).Alike (stateAfter .jacobi others passes) := by
  have defined : Closed others := closed.of_perm permuted
  apply State.Alike.of_held
  · intro name
    rw [names_stateAfter closed, names_stateAfter defined]
    exact mem_names_seed_of_perm permuted name
  · intro d
    rw [held_stateAfter closed, held_stateAfter defined,
      passHeld_jacobi_of_perm permuted distinct d]

theorem solution_inPlace_of_perm (closed : Closed equations)
    (constant : ConstantSubtrahends equations) :
    ∃ one other, Returns .inPlace equations one ∧ Returns .inPlace others other ∧
      one.solution.Alike other.solution := by
  have apart : (targets others).Nodup := (targets_perm permuted).nodup_iff.mp distinct
  obtain ⟨one, solved, names, least⟩ := solve_spec closed distinct constant .inPlace
  obtain ⟨other, found, others, same⟩ :=
    solve_spec (closed.of_perm permuted) apart (constant.of_perm permuted) .inPlace
  refine ⟨one, other, returns_iff_solve.mpr solved, returns_iff_solve.mpr found, ?_⟩
  apply State.Alike.of_held
  · intro name
    rw [names, others]
    exact mem_names_seed_of_perm permuted name
  · exact fun d => ((least d).of_perm permuted).unique (same d)

end Runs

/-! ## Whole runs -/

/-- Two systems go through states that are alike, pass after pass, and return the same or do not
return. -/
structure RunAlike (scheme : Scheme) (equations others : List Equation) : Prop where
  passes : ∃ one other : Nat → State, Course scheme equations one ∧ Course scheme others other ∧
    ∀ k, (one k).Alike (other k)
  results : ∀ one, Returns scheme equations one →
    ∃ other, Returns scheme others other ∧ SameOutcome one other
  returns : (∃ one, Returns scheme equations one) ↔ ∃ other, Returns scheme others other

theorem RunAlike.of_stateAfter {scheme : Scheme} {equations others : List Equation}
    (closed : Closed equations) (defined : Closed others)
    (alike : ∀ k, (stateAfter scheme equations k).Alike (stateAfter scheme others k)) :
    RunAlike scheme equations others where
  passes := ⟨_, _, course_stateAfter closed scheme, course_stateAfter defined scheme, alike⟩
  results _ returns := exists_returns_of_alike alike closed defined returns
  returns := by
    constructor
    · rintro ⟨one, returns⟩
      obtain ⟨other, returned, _⟩ := exists_returns_of_alike alike closed defined returns
      exact ⟨other, returned⟩
    · rintro ⟨other, returns⟩
      obtain ⟨one, returned, _⟩ :=
        exists_returns_of_alike (fun k => (alike k).symm) defined closed returns
      exact ⟨one, returned⟩

theorem order_of_equations_immaterial (equations others : List Equation)
    (distinct : (targets equations).Nodup) (closed : Closed equations)
    (permuted : equations.Perm others) :
    RunAlike .jacobi equations others ∧
      (ConstantSubtrahends equations →
        ∃ one other, Returns .inPlace equations one ∧ Returns .inPlace others other ∧
          one.solution.Alike other.solution) := by
  constructor
  · exact .of_stateAfter closed (closed.of_perm permuted)
      (stateAfter_jacobi_of_perm permuted distinct closed)
  · exact solution_inPlace_of_perm permuted distinct closed

def relay : List Equation :=
  [⟨"L1", .set [.definition "d1", .definition "d2"]⟩,
    ⟨"L2", .union (.difference (.dataPoint "L1") (.definition "d2")) (.dataPoint "L3")⟩,
    ⟨"L3", .body (.union (.dataPoint "L2") (.definition "d3"))⟩]

theorem order_of_equations_immaterial_relay :
    (targets relay).Nodup ∧ Closed relay ∧ relay.Perm relay.reverse ∧ ConstantSubtrahends relay ∧
      RunAlike .jacobi relay relay.reverse ∧
        ∃ one other, Returns .inPlace relay one ∧ Returns .inPlace relay.reverse other ∧
          one.solution.Alike other.solution := by
  have distinct : (targets relay).Nodup := by decide
  have closed : Closed relay := by decide
  have permuted : relay.Perm relay.reverse := (List.reverse_perm relay).symm
  have constant : ConstantSubtrahends relay := by decide
  obtain ⟨alike, solutions⟩ :=
    order_of_equations_immaterial relay relay.reverse distinct closed permuted
  exact ⟨distinct, closed, permuted, constant, alike, solutions constant⟩

/-- In place the order decides how many passes are made. -/
example : (solve .inPlace relay).toOption.join.map (·.passes) = some 3 ∧
    (solve .inPlace relay.reverse).toOption.join.map (·.passes) = some 4 := by decide +kernel

end Reaching.Solver
