import Mathlib
import Reaching.Proofs.Solver.Outcome

/-! # Slices of a system

`State.restrict` keeps the chosen data points of a state and `slice` the equations of a system that
have a chosen target.  A choice is `SelfContained` if these equations refer to chosen data points
only.  Then the other equations have no part in what becomes of the chosen data points: a store to
one of them does not show in the restricted state, and no equation of the slice reads it.  So each
pass of the system, restricted, is a pass of the slice (`stores_restrict`), and so is the whole
course (`restrict_stateAfter`), wherever the other equations stand and whether or not they settle.

Main fact: `slice_runs_alone`. -/
set_option autoImplicit false

namespace Reaching.Solver

namespace State

variable (chosen : Set String) [DecidablePred (· ∈ chosen)]

def restrict (state : State) : State :=
  ⟨state.entries.filter (·.1 ∈ chosen), (List.filter_sublist.map Prod.fst).nodup state.nodup⟩

theorem eq_of_entries {left right : State} (same : left.entries = right.entries) :
    left = right := by
  cases left
  cases right
  congr

theorem lookup_filter {name : String} (inside : name ∈ chosen) :
    ∀ entries : List (String × PointSet),
      (entries.filter (·.1 ∈ chosen)).lookup name = entries.lookup name := by
  intro entries
  induction entries with
  | nil => rfl
  | cons entry rest ih =>
      obtain ⟨head, set⟩ := entry
      by_cases kept : head ∈ chosen
      · simp only [List.filter_cons, kept, decide_true, if_true, List.lookup_cons, ih]
      · have unequal : (name == head) = false := beq_false_of_ne fun same => kept (same ▸ inside)
        simp only [List.filter_cons, kept, decide_false, Bool.false_eq_true, if_false,
          List.lookup_cons, unequal, ih]

theorem get?_restrict (state : State) {name : String} (inside : name ∈ chosen) :
    (state.restrict chosen).get? name = state.get? name :=
  lookup_filter chosen inside state.entries

theorem filter_assign_of_mem {name : String} (inside : name ∈ chosen) (set : PointSet) :
    ∀ entries : List (String × PointSet),
      (assign name set entries).filter (·.1 ∈ chosen) =
        assign name set (entries.filter (·.1 ∈ chosen)) := by
  intro entries
  induction entries with
  | nil => simp [assign, inside]
  | cons entry rest ih =>
      obtain ⟨head, old⟩ := entry
      by_cases same : head = name
      · subst same
        simp [assign, inside]
      · by_cases kept : head ∈ chosen
        · simp [assign, same, kept, ih]
        · simp [assign, same, kept, ih]

theorem filter_assign_of_notMem {name : String} (outside : name ∉ chosen) (set : PointSet) :
    ∀ entries : List (String × PointSet),
      (assign name set entries).filter (·.1 ∈ chosen) = entries.filter (·.1 ∈ chosen) := by
  intro entries
  induction entries with
  | nil => simp [assign, outside]
  | cons entry rest ih =>
      obtain ⟨head, old⟩ := entry
      by_cases same : head = name
      · subst same
        simp [assign, outside]
      · simp [assign, same, List.filter_cons, ih]

theorem restrict_put_of_mem (state : State) {name : String} (inside : name ∈ chosen)
    (set : PointSet) : (state.put name set).restrict chosen = (state.restrict chosen).put name set :=
  eq_of_entries (filter_assign_of_mem chosen inside set state.entries)

theorem restrict_put_of_notMem (state : State) {name : String} (outside : name ∉ chosen)
    (set : PointSet) : (state.put name set).restrict chosen = state.restrict chosen :=
  eq_of_entries (filter_assign_of_notMem chosen outside set state.entries)

end State

/-- Tells whether the equations with a chosen target refer to chosen data points only. -/
def SelfContained (chosen : Set String) (equations : List Equation) : Prop :=
  ∀ equation ∈ equations, equation.target ∈ chosen →
    ∀ name ∈ equation.value.references, name ∈ chosen

section Slice

variable (chosen : Set String) [DecidablePred (· ∈ chosen)]

def slice (equations : List Equation) : List Equation := equations.filter (·.target ∈ chosen)

instance (equations : List Equation) : Decidable (SelfContained chosen equations) :=
  inferInstanceAs (Decidable (∀ equation ∈ equations, equation.target ∈ chosen →
    ∀ name ∈ equation.value.references, name ∈ chosen))

variable {chosen}

theorem mem_slice {equation : Equation} {equations : List Equation} :
    equation ∈ slice chosen equations ↔ equation ∈ equations ∧ equation.target ∈ chosen := by
  simp [slice]

theorem slice_cons_of_mem {equation : Equation} (rest : List Equation)
    (inside : equation.target ∈ chosen) :
    slice chosen (equation :: rest) = equation :: slice chosen rest := by
  simp [slice, inside]

theorem slice_cons_of_notMem {equation : Equation} (rest : List Equation)
    (outside : equation.target ∉ chosen) : slice chosen (equation :: rest) = slice chosen rest := by
  simp [slice, outside]

theorem Closed.slice {equations : List Equation} (closed : Closed equations)
    (own : SelfContained chosen equations) : Closed (slice chosen equations) := by
  intro equation member name reference
  obtain ⟨listed, inside⟩ := mem_slice.mp member
  obtain ⟨definer, defines, rfl⟩ := List.mem_map.mp (closed equation listed name reference)
  have kept := own equation listed inside definer.target reference
  exact List.mem_map_of_mem (mem_slice.mpr ⟨defines, kept⟩)

omit [DecidablePred (· ∈ chosen)] in
theorem SelfContained.tail {equation : Equation} {rest : List Equation}
    (own : SelfContained chosen (equation :: rest)) : SelfContained chosen rest :=
  fun later member => own later (List.mem_cons_of_mem _ member)

theorem SelfContained.of_slice_eq {equations others : List Equation}
    (own : SelfContained chosen equations) (same : slice chosen others = slice chosen equations) :
    SelfContained chosen others := by
  intro equation member inside
  have there : equation ∈ slice chosen equations := same ▸ mem_slice.mpr ⟨member, inside⟩
  exact own equation (mem_slice.mp there).1 inside

/-! ## One pass -/

theorem evaluate_restrict (state : State) {node : Node}
    (own : ∀ name ∈ node.references, name ∈ chosen) :
    evaluate (state.restrict chosen) node = evaluate state node :=
  evaluate_congr node fun name reference => State.get?_restrict chosen state (own name reference)

theorem stores_restrict (scheme : Scheme) (start : State) : ∀ (equations : List Equation)
    (soFar next : State), SelfContained chosen equations →
      stores scheme start equations soFar = .ok next →
        stores scheme (start.restrict chosen) (slice chosen equations) (soFar.restrict chosen) =
          .ok (next.restrict chosen) := by
  intro equations
  induction equations with
  | nil =>
      intro soFar next _ made
      cases made
      rfl
  | cons equation rest ih =>
      intro soFar next own made
      obtain ⟨points, value, later⟩ := stores_cons_eq_ok.mp made
      have followed := ih (soFar.put equation.target points) next own.tail later
      by_cases inside : equation.target ∈ chosen
      · have viewed := scheme.apply_view (State.restrict chosen) start soFar
        have read := evaluate_restrict (scheme.view start soFar)
          (own equation List.mem_cons_self inside)
        rw [State.restrict_put_of_mem chosen soFar inside] at followed
        rw [viewed, value] at read
        rw [slice_cons_of_mem rest inside]
        exact stores_cons_eq_ok.mpr ⟨points, read, followed⟩
      -- The slice leaves the equation out, and its store does not show in the restricted state.
      · rw [State.restrict_put_of_notMem chosen soFar inside] at followed
        rw [slice_cons_of_notMem rest inside]
        exact followed

theorem restrict_foldl_put : ∀ (equations : List Equation) (state : State),
    (equations.foldl (fun state equation => state.put equation.target ∅) state).restrict chosen =
      (slice chosen equations).foldl (fun state equation => state.put equation.target ∅)
        (state.restrict chosen) := by
  intro equations
  induction equations with
  | nil => intro state; rfl
  | cons equation rest ih =>
      intro state
      rw [List.foldl_cons, ih]
      by_cases inside : equation.target ∈ chosen
      · rw [State.restrict_put_of_mem chosen state inside, slice_cons_of_mem rest inside,
          List.foldl_cons]
      · rw [State.restrict_put_of_notMem chosen state inside, slice_cons_of_notMem rest inside]

theorem restrict_seed (equations : List Equation) :
    (seed equations).restrict chosen = seed (slice chosen equations) :=
  restrict_foldl_put equations ∅

/-! ## Whole runs -/

section Runs

variable {equations : List Equation} (closed : Closed equations)
  (own : SelfContained chosen equations) (scheme : Scheme)

include closed own

theorem restrict_stateAfter (passes : Nat) :
    (stateAfter scheme equations passes).restrict chosen =
      stateAfter scheme (slice chosen equations) passes := by
  induction passes with
  | zero => exact restrict_seed equations
  | succ passes ih =>
      have made := stores_restrict scheme _ equations _ _ own (pass_stateAfter closed scheme passes)
      rw [ih] at made
      rw [stateAfter_succ scheme (slice chosen equations), advance, pass, made]

end Runs

end Slice

/-- The slice of a system makes the passes of the system, as far as the chosen data points go, and
has a result, after no more passes, if the system has one. -/
structure RunsAlone (chosen : Set String) [DecidablePred (· ∈ chosen)] (scheme : Scheme)
    (equations : List Equation) : Prop where
  passes : ∃ whole part : Nat → State,
    Course scheme equations whole ∧ Course scheme (slice chosen equations) part ∧
      ∀ k, (whole k).restrict chosen = part k
  result : ∀ whole, solve scheme equations = .ok (some whole) →
    ∃ part, solve scheme (slice chosen equations) = .ok (some part) ∧
      part.passes ≤ whole.passes ∧ part.solution = whole.solution.restrict chosen

/-- Two systems make the same passes, as far as the chosen data points go, and come to the same
result if both come to one. -/
structure Indistinguishable (chosen : Set String) [DecidablePred (· ∈ chosen)] (scheme : Scheme)
    (equations others : List Equation) : Prop where
  passes : ∃ one other : Nat → State,
    Course scheme equations one ∧ Course scheme others other ∧
      ∀ k, (one k).restrict chosen = (other k).restrict chosen
  result : ∀ one other, solve scheme equations = .ok (some one) →
    solve scheme others = .ok (some other) →
      one.solution.restrict chosen = other.solution.restrict chosen

theorem runsAlone {chosen : Set String} [DecidablePred (· ∈ chosen)] (scheme : Scheme)
    {equations : List Equation} (closed : Closed equations)
    (own : SelfContained chosen equations) : RunsAlone chosen scheme equations := by
  have sliced := closed.slice own
  have follows := restrict_stateAfter closed own scheme
  constructor
  · exact ⟨_, _, course_stateAfter closed scheme, course_stateAfter sliced scheme, follows⟩
  · intro whole solved
    exact exists_solve_of_image closed scheme sliced (fun k => (follows k).symm) solved

theorem slice_runs_alone (chosen : Set String) [DecidablePred (· ∈ chosen)] (scheme : Scheme)
    (equations : List Equation) (closed : Closed equations)
    (own : SelfContained chosen equations) :
    RunsAlone chosen scheme equations ∧
      ∀ others, Closed others → slice chosen others = slice chosen equations →
        Indistinguishable chosen scheme equations others := by
  have alone := runsAlone scheme closed own
  refine ⟨alone, fun others defined same => ?_⟩
  have apart := own.of_slice_eq same
  constructor
  · refine ⟨_, _, course_stateAfter closed scheme, course_stateAfter defined scheme, fun k => ?_⟩
    rw [restrict_stateAfter closed own, restrict_stateAfter defined apart, same]
  · intro one other solved solves
    obtain ⟨part, found, _, restricted⟩ := alone.result one solved
    obtain ⟨again, refound, _, rerestricted⟩ := (runsAlone scheme defined apart).result other solves
    rw [same, found] at refound
    cases refound
    exact restricted.symm.trans rerestricted

def observed : List Equation :=
  [⟨"L1", .union (.dataPoint "L2") (.set [.definition "d1"])⟩,
    ⟨"L3", .difference (.dataPoint "L1") (.dataPoint "L2")⟩,
    ⟨"L2", .difference (.dataPoint "L1") (.set [.definition "d2"])⟩]

def unsettled : List Equation :=
  [⟨"L3", .difference (.dataPoint "L3") (.definition "d2")⟩,
    ⟨"L1", .union (.dataPoint "L2") (.set [.definition "d1"])⟩,
    ⟨"L2", .difference (.dataPoint "L1") (.set [.definition "d2"])⟩,
    ⟨"L3", .difference (.dataPoint "L2") (.dataPoint "L3")⟩]

def observedPair : Set String := {name | name ∈ ["L1", "L2"]}

instance : DecidablePred (· ∈ observedPair) :=
  fun name => inferInstanceAs (Decidable (name ∈ ["L1", "L2"]))

theorem slice_runs_alone_observed :
    Closed observed ∧ SelfContained observedPair observed ∧
      RunsAlone observedPair .inPlace observed ∧
        Closed unsettled ∧ slice observedPair unsettled = slice observedPair observed ∧
          Indistinguishable observedPair .inPlace observed unsettled := by
  have closed : Closed observed := by decide
  have own : SelfContained observedPair observed := by decide
  have defined : Closed unsettled := by decide
  have same : slice observedPair unsettled = slice observedPair observed := rfl
  obtain ⟨alone, alike⟩ := slice_runs_alone observedPair .inPlace observed closed own
  exact ⟨closed, own, alone, defined, same, alike unsettled defined same⟩

example : (solve .inPlace observed).toOption.join.map (·.passes) = some 3 := by decide +kernel

example : solve .inPlace unsettled = .ok none := by decide +kernel

end Reaching.Solver
