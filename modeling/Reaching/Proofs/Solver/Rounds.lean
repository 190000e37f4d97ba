import Reaching.Proofs.Solver.Pass
import Mathlib.Logic.Function.Iterate

/-! # The states of a run, pass after pass

`stateAfter k` is the state after `k` passes from the seed of a system.  In a closed system no
pass fails, so these states follow one another by `pass` (`pass_stateAfter`), they all have the
names of the seed, and the data points that hold a definition in them are the iterates of
`passHeld` from the empty set (`held_stateAfter`).

`iterate_succ_eq_ok` says all that a run can do with a pass.  `SettlesAt last` says that the state
after `last` passes is the first that a pass leaves unchanged.  Then a run whose budget is larger
than `last` makes `last + 1` passes and ends settled (`iterate_of_settlesAt`), and so does `solve` if
there are more than `last` states (`solve_of_settlesAt`). -/
set_option autoImplicit false

namespace Reaching.Solver

/-- Makes one pass; a pass that fails leaves the state as it was. -/
def advance (scheme : Scheme) (equations : List Equation) (state : State) : State :=
  match pass scheme equations state with
  | .ok next => next
  | .error _ => state

def stateAfter (scheme : Scheme) (equations : List Equation) (passes : Nat) : State :=
  (advance scheme equations)^[passes] (seed equations)

theorem stateAfter_succ (scheme : Scheme) (equations : List Equation) (passes : Nat) :
    stateAfter scheme equations (passes + 1) =
      advance scheme equations (stateAfter scheme equations passes) :=
  Function.iterate_succ_apply' _ _ _

theorem advance_spec (scheme : Scheme) {equations : List Equation} {state : State}
    (covers : state.Covers equations) :
    pass scheme equations state = .ok (advance scheme equations state) ∧
      (advance scheme equations state).names = state.names ∧
        ∀ d, (advance scheme equations state).held d =
          passHeld d scheme equations (state.held d) := by
  obtain ⟨next, made, names, held⟩ := pass_spec scheme covers
  have same : advance scheme equations state = next := by rw [advance, made]
  rw [same]
  exact ⟨made, names, held⟩

/-- All that a run does with the first pass of its budget: it ends there, settled, or goes on from
another state. -/
theorem iterate_succ_eq_ok {scheme : Scheme} {equations : List Equation} {budget : Nat}
    {state : State} {run : Run} :
    iterate scheme equations (budget + 1) state = .ok run ↔
      ∃ next, pass scheme equations state = .ok next ∧
        (next = state ∧ ⟨[next], true⟩ = run ∨
          next ≠ state ∧ ∃ later, iterate scheme equations budget next = .ok later ∧
            ⟨next :: later.states, later.settled⟩ = run) := by
  rw [iterate, Calls.bind_eq_ok]
  refine exists_congr fun next => and_congr_right fun _ => ?_
  by_cases stable : next = state
  · simp [pure, Except.pure, stable]
  · rw [if_neg stable, Calls.bind_eq_ok]
    simp [pure, Except.pure, stable]

/-- The state after `last` passes is the first that a pass leaves unchanged. -/
structure SettlesAt (scheme : Scheme) (equations : List Equation) (last : Nat) : Prop where
  unchanged : stateAfter scheme equations (last + 1) = stateAfter scheme equations last
  changing : ∀ k < last, stateAfter scheme equations (k + 1) ≠ stateAfter scheme equations k

def settledRun (scheme : Scheme) (equations : List Equation) (last : Nat) : Run :=
  ⟨(List.range' 1 (last + 1)).map (stateAfter scheme equations), true⟩

theorem result_settledRun (scheme : Scheme) (equations : List Equation) {last : Nat}
    (settles : SettlesAt scheme equations last) :
    (settledRun scheme equations last).result (seed equations) =
      ⟨max last 1, last + 1, stateAfter scheme equations last,
        (settledRun scheme equations last).states⟩ := by
  have count : (settledRun scheme equations last).states.length = last + 1 := by
    simp [settledRun]
  have final : (settledRun scheme equations last).states.getLastD (seed equations) =
      stateAfter scheme equations last := by
    simp only [settledRun, List.range'_1_concat, List.map_append, List.map_cons, List.map_nil,
      List.getLastD_concat]
    rw [Nat.add_comm 1 last, settles.unchanged]
  rw [Run.result, count, final, Nat.add_sub_cancel]

section Closed

variable {equations : List Equation} (closed : Closed equations) (scheme : Scheme)

include closed

theorem names_stateAfter (passes : Nat) :
    (stateAfter scheme equations passes).names = (seed equations).names := by
  induction passes with
  | zero => rfl
  | succ passes ih =>
      have covers : (stateAfter scheme equations passes).Covers equations :=
        closed.covers fun name target => ih ▸ (mem_names_seed name equations).mpr target
      rw [stateAfter_succ, (advance_spec scheme covers).2.1, ih]

theorem covers_stateAfter (passes : Nat) :
    (stateAfter scheme equations passes).Covers equations :=
  closed.covers fun name target =>
    names_stateAfter closed scheme passes ▸ (mem_names_seed name equations).mpr target

theorem pass_stateAfter (passes : Nat) :
    pass scheme equations (stateAfter scheme equations passes) =
      .ok (stateAfter scheme equations (passes + 1)) := by
  rw [stateAfter_succ]
  exact (advance_spec scheme (covers_stateAfter closed scheme passes)).1

theorem held_stateAfter (d : String) (passes : Nat) :
    (stateAfter scheme equations passes).held d = (passHeld d scheme equations)^[passes] ∅ := by
  induction passes with
  | zero => exact held_seed d equations
  | succ passes ih =>
      have covers := covers_stateAfter closed scheme passes
      rw [stateAfter_succ, (advance_spec scheme covers).2.2 d, ih]
      exact (Function.iterate_succ_apply' _ _ _).symm

theorem iterate_stateAfter {last : Nat} (settles : SettlesAt scheme equations last) :
    ∀ budget made : Nat, made ≤ last → last < made + budget →
      iterate scheme equations budget (stateAfter scheme equations made) =
        .ok ⟨(List.range' (made + 1) (last + 1 - made)).map (stateAfter scheme equations), true⟩ := by
  intro budget
  induction budget with
  | zero => intro made _ _; omega
  | succ budget ih =>
      intro made within enough
      have step := pass_stateAfter closed scheme made
      rcases Nat.eq_or_lt_of_le within with rfl | before
      · have one : made + 1 - made = 1 := by omega
        rw [one]
        exact iterate_succ_eq_ok.mpr ⟨_, step, .inl ⟨settles.unchanged, rfl⟩⟩
      · have rest : last + 1 - made = (last + 1 - (made + 1)) + 1 := by omega
        have later := ih (made + 1) before (by omega)
        have changed := settles.changing made before
        rw [rest]
        exact iterate_succ_eq_ok.mpr ⟨_, step, .inr ⟨changed, _, later, rfl⟩⟩

theorem iterate_of_settlesAt {last : Nat} (settles : SettlesAt scheme equations last)
    {budget : Nat} (enough : last < budget) :
    iterate scheme equations budget (seed equations) = .ok (settledRun scheme equations last) :=
  iterate_stateAfter closed scheme settles budget 0 (Nat.zero_le _) (by omega)

theorem solve_of_settlesAt {last : Nat} (settles : SettlesAt scheme equations last)
    (enough : last < stateCount equations) :
    solve scheme equations =
      .ok (some ⟨max last 1, last + 1, stateAfter scheme equations last,
        (settledRun scheme equations last).states⟩) := by
  simp only [solve, iterate_of_settlesAt closed scheme settles enough, bind, Except.bind]
  rw [if_pos (show (settledRun scheme equations last).settled = true from rfl),
    result_settledRun scheme equations settles]
  rfl

end Closed

end Reaching.Solver
