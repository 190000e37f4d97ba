import Reaching.Proofs.Solver.Solutions

/-! # Systems that refer to no data point

If no value refers to a data point, it is the same in every state.  The first pass stores it, no
later store of the pass undoes that if targets are distinct, and so the second pass changes nothing:
one iteration is enough under either scheme, whatever the values are (`Constant.exists_returns`). -/
set_option autoImplicit false

namespace Reaching.Solver

def Constant (equations : List Equation) : Prop :=
  ∀ equation ∈ equations, equation.value.references = []

theorem evaluate_of_no_references {node : Node} (bare : node.references = [])
    (state other : State) : evaluate state node = evaluate other node := by
  apply evaluate_congr
  intro name reference
  rw [bare] at reference
  exact absurd reference List.not_mem_nil

namespace Constant

theorem closed {equations : List Equation} (constant : Constant equations) : Closed equations := by
  intro equation member name reference
  rw [constant equation member] at reference
  exact absurd reference List.not_mem_nil

/-- What a store of the pass has put there is the value in every state. -/
theorem satisfied_of_stores {scheme : Scheme} {equations : List Equation} {start soFar next : State}
    (constant : Constant equations) (distinct : (targets equations).Nodup)
    (made : stores scheme start equations soFar = .ok next) : Satisfied equations next := by
  intro equation member
  obtain ⟨seen, points, value, stored⟩ := exists_stored equations soFar distinct made member
  rw [evaluate_of_no_references (constant equation member) _ next] at value
  exact ⟨points, stored, value⟩

theorem exists_returns {equations : List Equation} (constant : Constant equations)
    (distinct : (targets equations).Nodup) (scheme : Scheme) :
    ∃ result, Returns scheme equations result ∧ result.iterations = 1 := by
  have first := pass_stateAfter constant.closed scheme 0
  have second := pass_stateAfter constant.closed scheme 1
  have satisfied := satisfied_of_stores constant distinct first
  have again : pass scheme equations (stateAfter scheme equations 1) =
      .ok (stateAfter scheme equations 1) := stores_of_satisfied equations satisfied
  -- The first pass changes nothing either if all values are empty.
  have unchanged := Except.ok.inj (second.symm.trans again)
  obtain ⟨last, early, settles, _⟩ := exists_settlesAt_of_unchanged unchanged
  exact ⟨_, returns_iff_settlesAt.mpr ⟨constant.closed, last, settles, rfl⟩, max_eq_right early⟩

end Constant

end Reaching.Solver
