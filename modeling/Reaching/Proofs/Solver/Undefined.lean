import Mathlib
import Reaching.Proofs.Solver.Outcome

/-! # Undefined data points

`firstUndefined` is the first data point, in the order of the equations and in each value from left
to right, that is referred to and is no target.  Although a state is only asked for a data point when
it is read, this can be told from the equations alone: evaluation leaves out no part of a value
(`evaluate_eq_error_iff`), and in every state of a run the names are the targets.

`reported` lists the states that a run shows: one for each pass that it completes, also if a later
pass fails.  Main fact: `undefined_stops_first_pass` (a run fails exactly if there is an undefined
data point, it names the first of them, and it does so before it has shown any state). -/
set_option autoImplicit false

namespace Reaching.Solver

/-! ## The first name that is missing -/

def firstMissing (present names : List String) : Option String := names.find? (· ∉ present)

theorem firstMissing_eq_none_iff {present names : List String} :
    firstMissing present names = none ↔ ∀ name ∈ names, name ∈ present := by
  simp [firstMissing, List.find?_eq_none]

theorem firstMissing_congr {present others : List String} (names : List String)
    (same : ∀ name, name ∈ present ↔ name ∈ others) :
    firstMissing present names = firstMissing others names := by
  simp only [firstMissing, same]

theorem firstMissing_of_append {present first second : List String} {name : String}
    (missing : firstMissing present (first ++ second) = some name) :
    firstMissing present first = some name ∨
      (∀ other ∈ first, other ∈ present) ∧ firstMissing present second = some name := by
  rw [firstMissing, List.find?_append] at missing
  cases found : first.find? (· ∉ present) with
  | some other =>
      rw [found, Option.some_or] at missing
      exact Or.inl (found.trans missing)
  | none =>
      rw [found, Option.none_or] at missing
      exact Or.inr ⟨firstMissing_eq_none_iff.mp found, missing⟩

theorem State.get?_of_notMem {state : State} {name : String} (absent : name ∉ state.names) :
    state.get? name = none :=
  Option.not_isSome_iff_eq_none.mp fun found =>
    absent ((State.lookup_isSome_iff name state.entries).mp found)

/-! ## Values -/

/-- Two parts that are evaluated one after the other fail with what is missing first: in the first
part, or in the second if the first has all that it refers to. -/
theorem combined_of_missing {present first second : List String} {name : String}
    {points added : Except Undefined PointSet} (combine : PointSet → PointSet → PointSet)
    (one : firstMissing present first = some name → points = .error ⟨name⟩)
    (defined : (∀ other ∈ first, other ∈ present) → ∃ set, points = .ok set)
    (other : firstMissing present second = some name → added = .error ⟨name⟩)
    (missing : firstMissing present (first ++ second) = some name) :
    (do let set ← points
        let more ← added
        return combine set more : Except Undefined PointSet) = .error ⟨name⟩ := by
  rcases firstMissing_of_append missing with here | ⟨known, there⟩
  · rw [one here]
    rfl
  · obtain ⟨set, value⟩ := defined known
    rw [value, other there]
    rfl

theorem exists_evaluate_of_known {state : State} (node : Node)
    (known : ∀ name ∈ node.references, name ∈ state.names) :
    ∃ points, evaluate state node = .ok points := by
  obtain ⟨points, value, _⟩ := evaluate_spec node known
  exact ⟨points, value⟩

mutual

theorem evaluate_of_missing {state : State} {name : String} : ∀ node : Node,
    firstMissing state.names node.references = some name → evaluate state node = .error ⟨name⟩
  | .dataPoint other, missing => by
      have absent := List.find?_some missing
      have same := List.mem_singleton.mp (List.mem_of_find?_eq_some missing)
      subst same
      rw [evaluate, State.get?_of_notMem (by simpa using absent)]
  | .definition _, missing => by simp [Node.references, firstMissing] at missing
  | .union left right, missing =>
      combined_of_missing (· ∪ ·) (evaluate_of_missing left) (exists_evaluate_of_known left)
        (evaluate_of_missing right) missing
  | .difference left right, missing =>
      combined_of_missing (· \ ·) (evaluate_of_missing left) (exists_evaluate_of_known left)
        (evaluate_of_missing right) missing
  | .set items, missing => evaluateAll_of_missing items missing
  | .body value, missing => evaluate_of_missing value missing
  | .equation target value, missing =>
      combined_of_missing (· ∪ ·) (evaluate_of_missing target) (exists_evaluate_of_known target)
        (evaluate_of_missing value) missing
  | .equations items, missing => evaluateAll_of_missing items missing
  | .root content, missing => evaluate_of_missing content missing

theorem evaluateAll_of_missing {state : State} {name : String} : ∀ items : List Node,
    firstMissing state.names (Node.referencesAll items) = some name →
      evaluateAll state items = .error ⟨name⟩
  | [], missing => by simp [Node.referencesAll, firstMissing] at missing
  | item :: rest, missing =>
      combined_of_missing (· ∪ ·) (evaluate_of_missing item) (exists_evaluate_of_known item)
        (evaluateAll_of_missing rest) missing

end

/-- A value is undefined exactly if a data point is missing; the first that is missing is named. -/
theorem evaluate_eq_error_iff {state : State} {node : Node} {e : Undefined} :
    evaluate state node = .error e ↔ firstMissing state.names node.references = some e.name := by
  constructor
  · intro failed
    cases missing : firstMissing state.names node.references with
    | none =>
        obtain ⟨points, value⟩ :=
          exists_evaluate_of_known node (firstMissing_eq_none_iff.mp missing)
        rw [value] at failed
        cases failed
    | some name =>
        rw [evaluate_of_missing node missing] at failed
        cases failed
        rfl
  · exact evaluate_of_missing node

/-! ## Passes and runs -/

def referred (equations : List Equation) : List String := equations.flatMap (·.value.references)

def firstUndefined (equations : List Equation) : Option String :=
  firstMissing (targets equations) (referred equations)

theorem firstUndefined_eq_none_iff {equations : List Equation} :
    firstUndefined equations = none ↔ Closed equations := by
  rw [firstUndefined, firstMissing_eq_none_iff, referred]
  simp only [List.mem_flatMap, Closed]
  constructor
  · exact fun known equation member name reference => known name ⟨equation, member, reference⟩
  · rintro closed name ⟨equation, member, reference⟩
    exact closed equation member name reference

/-- All states of a pass have the same names, so it does not matter which of them is read. -/
theorem stores_of_missing (scheme : Scheme) (start : State) {name : String} :
    ∀ (equations : List Equation) (soFar : State), start.names = soFar.names →
      (∀ target ∈ targets equations, target ∈ soFar.names) →
        firstMissing soFar.names (referred equations) = some name →
          stores scheme start equations soFar = .error ⟨name⟩ := by
  intro equations
  induction equations with
  | nil => intro soFar _ _ missing; simp [referred, firstMissing] at missing
  | cons equation rest ih =>
      intro soFar same present missing
      rw [targets, List.map_cons, List.forall_mem_cons] at present
      have viewed : (scheme.view start soFar).names = soFar.names := by
        rw [scheme.apply_view State.names, same, Scheme.view_self]
      rw [referred, List.flatMap_cons] at missing
      rcases firstMissing_of_append missing with here | ⟨known, later⟩
      · rw [stores, evaluate_of_missing equation.value (viewed ▸ here)]
        rfl
      · obtain ⟨points, value⟩ := exists_evaluate_of_known equation.value (viewed ▸ known)
        -- The target has a place already, so the store leaves the names as they are.
        have kept := State.names_put points present.1
        rw [stores, value]
        apply ih
        · rw [same, kept]
        · rw [kept]
          exact present.2
        · rw [kept]
          exact later

theorem pass_of_undefined {equations : List Equation} {name : String} (scheme : Scheme)
    (undefined : firstUndefined equations = some name) :
    pass scheme equations (seed equations) = .error ⟨name⟩ := by
  have names := fun target => mem_names_seed target equations
  apply stores_of_missing scheme _ equations _ rfl
  · exact fun target member => (names target).mpr member
  · rw [firstMissing_congr _ names]
    exact undefined

theorem solve_of_undefined {equations : List Equation} {name : String} (scheme : Scheme)
    (undefined : firstUndefined equations = some name) :
    solve scheme equations = .error ⟨name⟩ := by
  have positive : 0 < stateCount equations := Nat.pow_pos (by decide)
  obtain ⟨budget, enough⟩ := Nat.exists_eq_add_one.mpr positive
  rw [solve, enough, iterate, pass_of_undefined scheme undefined]
  rfl

theorem exists_solve_of_closed {equations : List Equation} (closed : Closed equations)
    (scheme : Scheme) : ∃ outcome, solve scheme equations = .ok outcome := by
  obtain ⟨run, ran, _⟩ := (course_stateAfter closed scheme).ends (stateCount equations)
  rw [solve, ran]
  exact ⟨_, rfl⟩

theorem solve_eq_error_iff {scheme : Scheme} {equations : List Equation} {e : Undefined} :
    solve scheme equations = .error e ↔ firstUndefined equations = some e.name := by
  constructor
  · intro failed
    cases undefined : firstUndefined equations with
    | none =>
        obtain ⟨outcome, solved⟩ :=
          exists_solve_of_closed (firstUndefined_eq_none_iff.mp undefined) scheme
        rw [solved] at failed
        cases failed
    | some name =>
        rw [solve_of_undefined scheme undefined] at failed
        cases failed
        rfl
  · exact solve_of_undefined scheme

def reported (scheme : Scheme) (equations : List Equation) : Nat → State → List State
  | 0, _ => []
  | budget + 1, state =>
    match pass scheme equations state with
    | .error _ => []
    | .ok next => next :: if next = state then [] else reported scheme equations budget next

/-- A run that does not fail has shown the states that it gives back. -/
theorem reported_of_iterate (scheme : Scheme) (equations : List Equation) :
    ∀ (budget : Nat) (state : State) (run : Run),
      iterate scheme equations budget state = .ok run →
        reported scheme equations budget state = run.states := by
  intro budget
  induction budget with
  | zero =>
      intro state run ran
      cases ran
      rfl
  | succ budget ih =>
      intro state run ran
      obtain ⟨next, made, ⟨stable, rfl⟩ | ⟨changed, later, went, rfl⟩⟩ := iterate_succ_eq_ok.mp ran
      · simp only [reported, made, if_pos stable]
      · simp only [reported, made, if_neg changed, ih next later went]

theorem reported_of_undefined {scheme : Scheme} {equations : List Equation} {e : Undefined}
    {state : State} (failed : pass scheme equations state = .error e) (budget : Nat) :
    reported scheme equations budget state = [] := by
  cases budget with
  | zero => rfl
  | succ budget => rw [reported, failed]

/-- What is known of the failures of a system: when there is one, what it names, that nothing has
been shown by then, and that a system whose first pass is made has none. -/
structure FailsAtOnce (scheme : Scheme) (equations : List Equation) : Prop where
  undefined : (∃ e, solve scheme equations = .error e) ↔
    ∃ equation ∈ equations, ∃ name ∈ equation.value.references, name ∉ targets equations
  named : ∀ e, solve scheme equations = .error e ↔ firstUndefined equations = some e.name
  unreported : ∀ e, solve scheme equations = .error e →
    pass scheme equations (seed equations) = .error e ∧
      ∀ budget, reported scheme equations budget (seed equations) = []
  lasting : ∀ next, pass scheme equations (seed equations) = .ok next →
    (∃ outcome, solve scheme equations = .ok outcome) ∧
      ∃ states, Course scheme equations states ∧ ∀ budget run,
        iterate scheme equations budget (seed equations) = .ok run →
          reported scheme equations budget (seed equations) = run.states

theorem undefined_stops_first_pass (equations : List Equation) (scheme : Scheme) :
    FailsAtOnce scheme equations where
  undefined := by
    have fails : (∃ e, solve scheme equations = .error e) ↔ ¬ Closed equations := by
      simp only [solve_eq_error_iff, ← firstUndefined_eq_none_iff]
      rw [← ne_eq, Option.ne_none_iff_exists']
      exact ⟨fun ⟨e, first⟩ => ⟨e.name, first⟩, fun ⟨name, first⟩ => ⟨⟨name⟩, first⟩⟩
    rw [fails, Closed]
    push Not
    rfl
  named _ := solve_eq_error_iff
  unreported e failed := by
    have first := pass_of_undefined scheme (solve_eq_error_iff.mp failed)
    exact ⟨first, reported_of_undefined first⟩
  lasting next made := by
    have closed : Closed equations := by
      rw [← firstUndefined_eq_none_iff, Option.eq_none_iff_forall_ne_some]
      intro name undefined
      rw [pass_of_undefined scheme undefined] at made
      cases made
    exact ⟨exists_solve_of_closed closed scheme, _, course_stateAfter closed scheme,
      fun budget run => reported_of_iterate scheme equations budget _ run⟩

def dangling : List Equation :=
  [⟨"L1", .union (.definition "d1") (.set [.definition "d1", .body (.dataPoint "L2")])⟩,
    ⟨"L2", .difference (.set []) (.union (.dataPoint "L9") (.dataPoint "L7"))⟩,
    ⟨"L3", .dataPoint "L8"⟩]

example : firstUndefined dangling = some "L9" := by decide

example : solve .jacobi dangling = .error ⟨"L9"⟩ := by decide +kernel

end Reaching.Solver
