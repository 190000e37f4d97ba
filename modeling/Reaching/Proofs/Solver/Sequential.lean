import Mathlib
import Reaching.Proofs.Solver.Solutions

/-! # Systems that only look back

A system is `Sequential` if each of its equations refers to data points of earlier equations only.
What the values are made of does not matter then.

A pass in place reads nothing that the same pass has not stored, so it ends in the same state wherever
it began (`agree_of_stores_inPlace`), also if a data point is stored several times, and the second pass
changes nothing.  Under `jacobi` an equation reads what the pass before has left of the equations
before it.  If each target is stored once, the first `k` equations are settled after `k` passes
(`get?_stateAfter_jacobi`), in the state in which a run in place ends.

Main fact: `sequential_settles`. -/
set_option autoImplicit false

namespace Reaching.Solver

/-- Each equation refers to data points that are known or that an earlier equation defines. -/
def SequentialAfter (known : List String) : List Equation → Prop
  | [] => True
  | equation :: rest =>
    (∀ name ∈ equation.value.references, name ∈ known) ∧
      SequentialAfter (equation.target :: known) rest

def Sequential (equations : List Equation) : Prop := SequentialAfter [] equations

instance decidableSequentialAfter : ∀ (known : List String) (equations : List Equation),
    Decidable (SequentialAfter known equations)
  | _, [] => inferInstanceAs (Decidable True)
  | known, equation :: rest =>
    haveI := decidableSequentialAfter (equation.target :: known) rest
    inferInstanceAs (Decidable ((∀ name ∈ equation.value.references, name ∈ known) ∧
      SequentialAfter (equation.target :: known) rest))

instance (equations : List Equation) : Decidable (Sequential equations) :=
  decidableSequentialAfter [] equations

theorem SequentialAfter.known_or_earlier {equation : Equation} {name : String} :
    ∀ (equations : List Equation) (known : List String) (k : Nat), SequentialAfter known equations →
      equation ∈ equations.take (k + 1) → name ∈ equation.value.references →
        name ∈ known ∨ name ∈ targets (equations.take k) := by
  intro equations
  induction equations with
  | nil => intro _ _ _ member; simp at member
  | cons first rest ih =>
      intro known k sequential member reference
      rw [List.take_succ_cons] at member
      rcases List.mem_cons.mp member with rfl | later
      · exact Or.inl (sequential.1 name reference)
      · cases k with
        | zero => simp at later
        | succ k =>
            rw [List.take_succ_cons, targets, List.map_cons, List.mem_cons]
            rcases ih _ k sequential.2 later reference with here | there
            · exact (List.mem_cons.mp here).elim (fun own => Or.inr (Or.inl own)) Or.inl
            · exact Or.inr (Or.inr there)

section Sequential

variable {equations : List Equation} (sequential : Sequential equations)

include sequential

theorem Sequential.earlier {equation : Equation} {k : Nat}
    (member : equation ∈ equations.take (k + 1)) {name : String}
    (reference : name ∈ equation.value.references) : name ∈ targets (equations.take k) :=
  (sequential.known_or_earlier equations [] k member reference).resolve_left List.not_mem_nil

theorem Sequential.closed : Closed equations := by
  intro equation member name reference
  have among : equation ∈ equations.take (equations.length + 1) := by
    rwa [List.take_of_length_le (Nat.le_succ _)]
  have target := sequential.earlier among reference
  rwa [List.take_length] at target

end Sequential

/-! ## Passes in place -/

/-- Passes that begin in states which agree on what is known end in states which agree on that and on
all that the pass stores. -/
theorem agree_of_stores_inPlace {start begun next final : State} {name : String} :
    ∀ (equations : List Equation) (known : List String) (soFar other : State),
      SequentialAfter known equations → (∀ name ∈ known, soFar.get? name = other.get? name) →
      stores .inPlace start equations soFar = .ok next →
      stores .inPlace begun equations other = .ok final →
        name ∈ known ∨ name ∈ targets equations → next.get? name = final.get? name := by
  intro equations
  induction equations with
  | nil =>
      intro known soFar other _ agree made remade member
      cases made
      cases remade
      exact agree name (member.resolve_right List.not_mem_nil)
  | cons equation rest ih =>
      intro known soFar other sequential agree made remade member
      obtain ⟨points, value, later⟩ := stores_cons_eq_ok.mp made
      obtain ⟨others, again, relater⟩ := stores_cons_eq_ok.mp remade
      have read : evaluate soFar equation.value = evaluate other equation.value :=
        evaluate_congr equation.value fun name reference => agree name (sequential.1 name reference)
      obtain rfl : points = others := Except.ok.inj (value.symm.trans (read.trans again))
      refine ih _ _ _ sequential.2 ?_ later relater ?_
      · intro earlier among
        by_cases own : earlier = equation.target
        · rw [own, State.get?_put_self, State.get?_put_self]
        · rw [State.get?_put_ne _ _ _ _ own, State.get?_put_ne _ _ _ _ own]
          exact agree earlier ((List.mem_cons.mp among).resolve_left own)
      · rw [targets, List.map_cons, List.mem_cons] at member
        rw [List.mem_cons, or_assoc, or_left_comm]
        exact member

section Runs

variable {equations : List Equation}

/-- States of two runs are equal if they agree on the targets. -/
theorem stateAfter_eq_of_agree (closed : Closed equations) {scheme other : Scheme} {i j : Nat}
    (agree : ∀ name ∈ targets equations,
      (stateAfter scheme equations i).get? name = (stateAfter other equations j).get? name) :
    stateAfter scheme equations i = stateAfter other equations j := by
  apply State.ext_points
  · rw [names_stateAfter closed, names_stateAfter closed]
  · intro name
    by_cases target : name ∈ targets equations
    · rw [State.points, State.points, agree name target]
    · rw [← mem_names_seed] at target
      rw [State.points_of_notMem (by rwa [names_stateAfter closed]),
        State.points_of_notMem (by rwa [names_stateAfter closed])]

variable (sequential : Sequential equations)

include sequential

theorem stateAfter_inPlace_unchanged :
    stateAfter .inPlace equations 2 = stateAfter .inPlace equations 1 := by
  apply stateAfter_eq_of_agree sequential.closed
  intro name target
  have first := pass_stateAfter sequential.closed .inPlace 0
  have second := pass_stateAfter sequential.closed .inPlace 1
  exact agree_of_stores_inPlace equations [] _ _ sequential nofun second first (Or.inr target)

/-! ## Passes under `jacobi` -/

theorem get?_stateAfter_jacobi (distinct : (targets equations).Nodup) {solution : State}
    (satisfied : Satisfied equations solution) : ∀ k, ∀ name ∈ targets (equations.take k),
      (stateAfter .jacobi equations k).get? name = solution.get? name := by
  intro k
  induction k with
  | zero => intro name target; simp [targets] at target
  | succ k ih =>
      intro name target
      obtain ⟨equation, among, rfl⟩ := List.mem_map.mp target
      have member := List.mem_of_mem_take among
      have made := pass_stateAfter sequential.closed .jacobi k
      obtain ⟨_, points, value, stored⟩ := exists_stored equations _ distinct made member
      obtain ⟨others, there, final⟩ := satisfied equation member
      have read : evaluate (stateAfter .jacobi equations k) equation.value =
          evaluate solution equation.value :=
        evaluate_congr equation.value fun name reference =>
          ih name (sequential.earlier among reference)
      rw [stored, there]
      exact congrArg some (Except.ok.inj (value.symm.trans (read.trans final)))

end Runs

theorem sequential_settles (equations : List Equation) (sequential : Sequential equations) :
    ∃ first, solve .inPlace equations = .ok (some first) ∧ first.iterations = 1 ∧
      first.passes ≤ 2 ∧
        ((targets equations).Nodup → ∃ second, solve .jacobi equations = .ok (some second) ∧
          second.iterations ≤ max equations.length 1 ∧ second.solution = first.solution) := by
  have closed := sequential.closed
  obtain ⟨last, early, settles, reached⟩ :=
    exists_settlesAt_of_unchanged (stateAfter_inPlace_unchanged sequential)
  have solved := (solve_eq_some_iff closed .inPlace).mpr ⟨last, settles, rfl⟩
  refine ⟨_, solved, max_eq_right early, Nat.succ_le_succ early, fun distinct => ?_⟩
  have satisfied := (isSolution_of_returns distinct (returns_iff_solve.mpr solved)).satisfied
  have arrives : ∀ more, stateAfter .jacobi equations (equations.length + more) =
      stateAfter .inPlace equations last := by
    intro more
    apply stateAfter_eq_of_agree closed
    intro name target
    apply get?_stateAfter_jacobi sequential distinct satisfied
    rwa [List.take_of_length_le (Nat.le_add_right _ _)]
  have unchanged := (arrives 1).trans (arrives 0).symm
  obtain ⟨other, within, settled, same⟩ := exists_settlesAt_of_unchanged unchanged
  refine ⟨_, (solve_eq_some_iff closed .jacobi).mpr ⟨other, settled, rfl⟩, ?_, ?_⟩
  · exact max_le_max within le_rfl
  · exact same.trans (arrives 0)

/-- Under `jacobi` the set of `L3` grows in the second pass and shrinks in the third. -/
def carving : List Equation :=
  [⟨"L1", .set [.definition "d1", .definition "d2"]⟩,
    ⟨"L2", .difference (.dataPoint "L1") (.definition "d2")⟩,
    ⟨"L3", .body (.difference (.dataPoint "L1") (.set [.dataPoint "L2"]))⟩]

def reworked : List Equation :=
  [⟨"L1", .definition "d1"⟩, ⟨"L2", .dataPoint "L1"⟩,
    ⟨"L1", .difference (.set [.definition "d1", .definition "d2"]) (.dataPoint "L2")⟩]

theorem sequential_settles_carving :
    Sequential carving ∧ (targets carving).Nodup ∧
      (∃ first second, solve .inPlace carving = .ok (some first) ∧
        solve .jacobi carving = .ok (some second) ∧ first.iterations = 1 ∧ first.passes ≤ 2 ∧
          second.iterations ≤ 3 ∧ second.solution = first.solution) ∧
      Sequential reworked ∧ ∃ first, solve .inPlace reworked = .ok (some first) ∧
        first.iterations = 1 ∧ first.passes ≤ 2 := by
  have sequential : Sequential carving := by decide
  have distinct : (targets carving).Nodup := by decide
  have again : Sequential reworked := by decide
  obtain ⟨first, solved, once, twice, jacobi⟩ := sequential_settles carving sequential
  obtain ⟨second, resolved, within, same⟩ := jacobi distinct
  obtain ⟨other, found, one, two, _⟩ := sequential_settles reworked again
  exact ⟨sequential, distinct, ⟨first, second, solved, resolved, once, twice, within, same⟩, again,
    other, found, one, two⟩

end Reaching.Solver
