import Mathlib
import Reaching.Proofs.Solver.Loop

/-! # States that differ in order only

Names stand in a state in the order in which they were first stored, but no value depends on that
order.  States are `Alike` if they hold the same sets for the same names.  If each pass of two
systems takes states that are alike to states that are alike, so do their whole runs
(`stateAfter_alike`).  Within one run the order never changes, so such runs settle at the same time,
and their results differ in order only (`exists_returns_of_alike`). -/
set_option autoImplicit false

namespace Reaching.Solver

namespace State

def Alike (one other : State) : Prop := ∀ name, one.get? name = other.get? name

namespace Alike

variable {one other : State}

theorem symm (alike : one.Alike other) : other.Alike one := fun name => (alike name).symm

theorem trans {third : State} (alike : one.Alike other) (next : other.Alike third) :
    one.Alike third := fun name => (alike name).trans (next name)

theorem of_held (names : ∀ name, name ∈ one.names ↔ name ∈ other.names)
    (same : ∀ d, one.held d = other.held d) : one.Alike other := by
  intro name
  by_cases present : name ∈ one.names
  · have equal : one.points name = other.points name :=
      PointSet.ext fun d => Set.ext_iff.mp (same d) name
    rw [get?_of_mem present, get?_of_mem ((names name).mp present), equal]
  · rw [get?_of_notMem present, get?_of_notMem fun there => present ((names name).mpr there)]

theorem eq_of_names (alike : one.Alike other) (names : one.names = other.names) : one = other := by
  refine ext_points names fun name => ?_
  rw [points, points, alike name]

end Alike

end State

/-! ## States of a run -/

theorem get?_seed_of_mem {name : String} {equations : List Equation}
    (target : name ∈ targets equations) : (seed equations).get? name = some ∅ := by
  rw [State.get?_of_mem ((mem_names_seed name equations).mpr target), points_seed]

theorem get?_seed_of_notMem {name : String} {equations : List Equation}
    (absent : name ∉ targets equations) : (seed equations).get? name = none :=
  State.get?_of_notMem fun present => absent ((mem_names_seed name equations).mp present)

theorem seed_alike {equations others : List Equation}
    (same : ∀ name, name ∈ targets equations ↔ name ∈ targets others) :
    (seed equations).Alike (seed others) := by
  intro name
  by_cases target : name ∈ targets equations
  · rw [get?_seed_of_mem target, get?_seed_of_mem ((same name).mp target)]
  · rw [get?_seed_of_notMem target, get?_seed_of_notMem fun other => target ((same name).mpr other)]

/-- Passes that take states that are alike to states that are alike do so all the way from the
seeds. -/
theorem stateAfter_alike {scheme : Scheme} {equations others : List Equation}
    (closed : Closed equations) (defined : Closed others)
    (same : ∀ name, name ∈ targets equations ↔ name ∈ targets others)
    (step : ∀ one other next : State, one.Alike other → pass scheme equations one = .ok next →
      ∃ reached, pass scheme others other = .ok reached ∧ next.Alike reached) :
    ∀ passes, (stateAfter scheme equations passes).Alike (stateAfter scheme others passes) := by
  intro passes
  induction passes with
  | zero => exact seed_alike same
  | succ passes ih =>
      obtain ⟨reached, made, alike⟩ := step _ _ _ ih (pass_stateAfter closed scheme passes)
      have next := pass_stateAfter defined scheme passes
      obtain rfl : reached = _ := Except.ok.inj (made.symm.trans next)
      exact alike

/-! ## Results -/

structure SameOutcome (one other : Result) : Prop where
  iterations : one.iterations = other.iterations
  passes : one.passes = other.passes
  solution : one.solution.Alike other.solution
  snapshots : List.Forall₂ State.Alike one.snapshots other.snapshots

section Runs

variable {scheme : Scheme} {equations others : List Equation}
  (alike : ∀ k, (stateAfter scheme equations k).Alike (stateAfter scheme others k))

include alike

theorem stateAfter_succ_eq_of_alike (closed : Closed equations) {k : Nat}
    (stable : stateAfter scheme others (k + 1) = stateAfter scheme others k) :
    stateAfter scheme equations (k + 1) = stateAfter scheme equations k := by
  have near : (stateAfter scheme others (k + 1)).Alike (stateAfter scheme equations k) :=
    stable ▸ (alike k).symm
  apply ((alike (k + 1)).trans near).eq_of_names
  rw [names_stateAfter closed, names_stateAfter closed]

theorem SettlesAt.of_alike (closed : Closed equations) (defined : Closed others) {last : Nat}
    (settles : SettlesAt scheme equations last) : SettlesAt scheme others last where
  unchanged :=
    stateAfter_succ_eq_of_alike (fun k => (alike k).symm) defined settles.unchanged
  changing k before stable :=
    settles.changing k before (stateAfter_succ_eq_of_alike alike closed stable)

theorem exists_returns_of_alike (closed : Closed equations) (defined : Closed others)
    {one : Result} (returns : Returns scheme equations one) :
    ∃ other, Returns scheme others other ∧ SameOutcome one other := by
  obtain ⟨_, last, settles, rfl⟩ := returns_iff_settlesAt.mp returns
  have follows := settles.of_alike alike closed defined
  refine ⟨_, returns_iff_settlesAt.mpr ⟨defined, last, follows, rfl⟩, rfl, rfl, alike last, ?_⟩
  rw [settledRun, settledRun, List.forall₂_map_left_iff, List.forall₂_map_right_iff]
  exact List.forall₂_same.mpr fun number _ => alike number

end Runs

end Reaching.Solver
