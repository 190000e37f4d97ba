import Mathlib
import Reaching.Proofs.Solver.Loop

/-! # A pass leaves the solutions unchanged, and nothing else

`IsSolution` says that a state over the targets of a system satisfies each of its equations.
Nothing is assumed of the values: they may subtract data points, and a system may have several
solutions or none.

If targets are distinct, a value that has been stored is still there at the end of the pass.  So a
pass in place that ends in the state in which it began has changed nothing on the way either, and
every equation has read that state (`satisfied_of_stores`).  With the converse
(`stores_of_satisfied`), a state over the targets is a solution exactly if a pass leaves it
unchanged, under either scheme (`pass_eq_self_iff`).

Main fact: `runs_end_in_solutions`. -/
set_option autoImplicit false

namespace Reaching.Solver

namespace State

theorem mem_names_of_get? {state : State} {name : String} {points : PointSet}
    (found : state.get? name = some points) : name ∈ state.names :=
  (lookup_isSome_iff name state.entries).mp (Option.isSome_of_eq_some found)

/-- To store what is there already changes nothing. -/
theorem put_of_get? {state : State} {name : String} {points : PointSet}
    (found : state.get? name = some points) : state.put name points = state := by
  refine ext_points (names_put points (mem_names_of_get? found)) fun other => ?_
  by_cases same : other = name
  · rw [same, points_put_self, State.points, found, Option.getD_some]
  · exact points_put_ne state name other points same

end State

def Satisfied (equations : List Equation) (state : State) : Prop :=
  ∀ equation ∈ equations, ∃ points,
    state.get? equation.target = some points ∧ evaluate state equation.value = .ok points

structure IsSolution (equations : List Equation) (state : State) : Prop where
  names : ∀ name, name ∈ state.names ↔ name ∈ targets equations
  satisfied : Satisfied equations state

variable {scheme : Scheme}

/-! ## Passes that end where they began -/

theorem stores_of_satisfied {state : State} : ∀ equations : List Equation,
    Satisfied equations state → stores scheme state equations state = .ok state := by
  intro equations
  induction equations with
  | nil => intro _; rfl
  | cons equation rest ih =>
      intro satisfied
      obtain ⟨points, stored, value⟩ := satisfied equation List.mem_cons_self
      refine stores_cons_eq_ok.mpr ⟨points, ?_, ?_⟩
      · rw [Scheme.view_self, value]
      · rw [State.put_of_get? stored]
        exact ih fun later member => satisfied later (List.mem_cons_of_mem _ member)

theorem get?_stores_of_notMem {start next : State} {name : String} :
    ∀ (equations : List Equation) (soFar : State), name ∉ targets equations →
      stores scheme start equations soFar = .ok next → next.get? name = soFar.get? name := by
  intro equations
  induction equations with
  | nil =>
      intro soFar _ made
      cases made
      rfl
  | cons equation rest ih =>
      intro soFar absent made
      rw [targets, List.map_cons, List.mem_cons, not_or] at absent
      obtain ⟨points, _, later⟩ := stores_cons_eq_ok.mp made
      rw [ih _ absent.2 later, State.get?_put_ne _ _ _ _ absent.1]

/-- What an equation stores is still there at the end of the pass, if no other has its target. -/
theorem exists_stored {start next : State} {equation : Equation} :
    ∀ (equations : List Equation) (soFar : State), (targets equations).Nodup →
      stores scheme start equations soFar = .ok next → equation ∈ equations →
        ∃ seen points, evaluate (scheme.view start seen) equation.value = .ok points ∧
          next.get? equation.target = some points := by
  intro equations
  induction equations with
  | nil => intro _ _ _ member; simp at member
  | cons first rest ih =>
      intro soFar distinct made member
      rw [targets, List.map_cons, List.nodup_cons] at distinct
      obtain ⟨points, value, later⟩ := stores_cons_eq_ok.mp made
      rcases List.mem_cons.mp member with rfl | other
      · refine ⟨soFar, points, value, ?_⟩
        rw [get?_stores_of_notMem rest _ distinct.1 later, State.get?_put_self]
      · exact ih _ distinct.2 later other

/-- The first store is not undone by the later ones, so it has changed nothing, and the others make
a pass of their own over the same state. -/
theorem satisfied_of_stores {state : State} : ∀ equations : List Equation,
    (targets equations).Nodup → stores scheme state equations state = .ok state →
      Satisfied equations state := by
  intro equations
  induction equations with
  | nil => intro _ _ equation member; simp at member
  | cons first rest ih =>
      intro distinct made
      rw [targets, List.map_cons, List.nodup_cons] at distinct
      obtain ⟨points, value, later⟩ := stores_cons_eq_ok.mp made
      rw [Scheme.view_self] at value
      have stored : state.get? first.target = some points := by
        rw [get?_stores_of_notMem rest _ distinct.1 later, State.get?_put_self]
      rw [State.put_of_get? stored] at later
      intro equation member
      rcases List.mem_cons.mp member with rfl | other
      · exact ⟨points, stored, value⟩
      · exact ih distinct.2 later equation other

theorem pass_eq_self_iff {equations : List Equation} (distinct : (targets equations).Nodup)
    {state : State} (names : ∀ name, name ∈ state.names ↔ name ∈ targets equations) :
    pass scheme equations state = .ok state ↔ IsSolution equations state := by
  constructor
  · exact fun unchanged => ⟨names, satisfied_of_stores equations distinct unchanged⟩
  · exact fun solution => stores_of_satisfied equations solution.satisfied

/-! ## What a run returns -/

variable {equations : List Equation} {result : Result}

theorem mem_names_of_returns (returns : Returns scheme equations result) (name : String) :
    name ∈ result.solution.names ↔ name ∈ targets equations := by
  obtain ⟨closed, last, _, rfl⟩ := returns_iff_settlesAt.mp returns
  rw [names_stateAfter closed scheme last]
  exact mem_names_seed name equations

theorem pass_of_returns (returns : Returns scheme equations result) :
    pass scheme equations result.solution = .ok result.solution := by
  obtain ⟨closed, last, settles, rfl⟩ := returns_iff_settlesAt.mp returns
  rw [pass_stateAfter closed scheme last, settles.unchanged]

theorem isSolution_of_returns (distinct : (targets equations).Nodup)
    (returns : Returns scheme equations result) : IsSolution equations result.solution :=
  (pass_eq_self_iff distinct (mem_names_of_returns returns)).mp (pass_of_returns returns)

theorem runs_end_in_solutions (equations : List Equation)
    (distinct : (targets equations).Nodup) :
    (∀ scheme result, Returns scheme equations result →
      IsSolution equations result.solution ∧
        ∀ other, pass other equations result.solution = .ok result.solution) ∧
    ∀ state, IsSolution equations state → ∀ scheme, pass scheme equations state = .ok state := by
  have unchanged : ∀ state, IsSolution equations state →
      ∀ scheme, pass scheme equations state = .ok state :=
    fun state solution scheme => (pass_eq_self_iff distinct solution.names).mpr solution
  refine ⟨fun scheme result returns => ?_, unchanged⟩
  have solution := isSolution_of_returns distinct returns
  exact ⟨solution, unchanged result.solution solution⟩

/-- Each of two data points takes away the other.  In place the first wins; a run under `jacobi`
goes round for ever. -/
def rivals : List Equation :=
  [⟨"L1", .difference (.set [.definition "d1", .definition "d2"]) (.dataPoint "L2")⟩,
    ⟨"L2", .difference (.definition "d2") (.dataPoint "L1")⟩]

def firstWins : State :=
  .ofList [("L1", .ofList ["d1", "d2"]), ("L2", ∅)]

def shared : State :=
  .ofList [("L1", .singleton "d1"), ("L2", .singleton "d2")]

theorem runs_end_in_solutions_rivals :
    (targets rivals).Nodup ∧
      Returns .inPlace rivals ⟨1, 2, firstWins, [firstWins, firstWins]⟩ ∧
      IsSolution rivals firstWins ∧ pass .jacobi rivals firstWins = .ok firstWins ∧
      IsSolution rivals shared ∧ pass .inPlace rivals shared = .ok shared := by
  have distinct : (targets rivals).Nodup := by decide
  have returns : Returns .inPlace rivals ⟨1, 2, firstWins, [firstWins, firstWins]⟩ :=
    returns_iff_solve.mpr (by decide +kernel)
  have solves : IsSolution rivals shared := by
    constructor
    · intro name
      change name ∈ ["L1", "L2"] ↔ name ∈ ["L1", "L2"]
      rfl
    · intro equation member
      simp only [rivals, List.mem_cons, List.not_mem_nil, or_false] at member
      rcases member with rfl | rfl
      · exact ⟨.singleton "d1", by decide, by decide +kernel⟩
      · exact ⟨.singleton "d2", by decide, by decide +kernel⟩
  obtain ⟨returned, unchanged⟩ := runs_end_in_solutions rivals distinct
  obtain ⟨solution, rests⟩ := returned .inPlace _ returns
  exact ⟨distinct, returns, solution, rests .jacobi, solves, unchanged shared solves .inPlace⟩

example : solve .jacobi rivals = .ok none := by decide +kernel

end Reaching.Solver
