import Reaching.Proofs.Solver.Loop

/-! # Where the definitions in a state come from

The states of a run are those in which a pass begins, and those after each store of a pass, also of
a pass that fails further on (`Visited`).  Nothing is assumed of a system here: it may refer to data
points that it lacks, subtract data points and store to one target several times.

`OnlyAdded` says that the names of a state are the targets and that each definition in it is added
somewhere in the equations, that is, stands on the right of no difference.  A store keeps this
(`OnlyAdded.put`), so every visited state has it (`onlyAdded_of_visited`), and all that a run shows
or returns has been visited.

Main fact: `states_hold_added_definitions`. -/
set_option autoImplicit false

namespace Reaching.Solver

variable {scheme : Scheme} {equations : List Equation}

/-! ## States of a run -/

inductive PassStart (scheme : Scheme) (equations : List Equation) : State → Prop where
  | seed : PassStart scheme equations (seed equations)
  | next {start next : State} (earlier : PassStart scheme equations start)
      (made : pass scheme equations start = .ok next) : PassStart scheme equations next

/-- The states after the stores of the first few equations of a pass, or of none or all of them. -/
def Visited (scheme : Scheme) (equations : List Equation) (state : State) : Prop :=
  ∃ start front, PassStart scheme equations start ∧ front <+: equations ∧
    stores scheme start front start = .ok state

theorem PassStart.visited {state : State} (starts : PassStart scheme equations state) :
    Visited scheme equations state :=
  ⟨state, [], starts, List.nil_prefix, rfl⟩

theorem passStart_of_reported : ∀ (budget : Nat) {start : State},
    PassStart scheme equations start → ∀ state ∈ reported scheme equations budget start,
      PassStart scheme equations state := by
  intro budget
  induction budget with
  | zero => intro start _ state member; simp [reported] at member
  | succ budget ih =>
      intro start starts state member
      rw [reported] at member
      cases made : pass scheme equations start with
      | error undefined => simp [made] at member
      | ok next =>
          have reached : PassStart scheme equations next := starts.next made
          rw [made] at member
          by_cases stable : next = start
          · simp only [if_pos stable, List.mem_singleton] at member
            exact member ▸ reached
          · simp only [if_neg stable, List.mem_cons] at member
            rcases member with rfl | later
            · exact reached
            · exact ih reached state later

theorem passStart_stateAfter (closed : Closed equations) (passes : Nat) :
    PassStart scheme equations (stateAfter scheme equations passes) := by
  induction passes with
  | zero => exact .seed
  | succ passes ih => exact ih.next (pass_stateAfter closed scheme passes)

/-! ## What they hold -/

structure OnlyAdded (equations : List Equation) (state : State) : Prop where
  names : ∀ name, name ∈ state.names ↔ name ∈ targets equations
  added : ∀ name, ∀ d ∈ state.points name, ∃ equation ∈ equations, d ∈ equation.value.added

theorem known_of_evaluate {state : State} {node : Node} {points : PointSet}
    (value : evaluate state node = .ok points) : ∀ name ∈ node.references, name ∈ state.names := by
  apply firstMissing_eq_none_iff.mp
  rw [Option.eq_none_iff_forall_ne_some]
  intro name missing
  rw [evaluate_of_missing node missing] at value
  cases value

theorem added_or_held_of_evaluate {state : State} {node : Node} {points : PointSet}
    (value : evaluate state node = .ok points) {d : String} (member : d ∈ points) :
    d ∈ node.added ∨ ∃ name, d ∈ state.points name := by
  obtain ⟨same, again, yielded⟩ := evaluate_spec node (known_of_evaluate value)
  obtain rfl : points = same := Except.ok.inj (value.symm.trans again)
  exact Node.mem_added_of_yields node ((yielded d).mp member)

theorem onlyAdded_seed (equations : List Equation) : OnlyAdded equations (seed equations) where
  names name := mem_names_seed name equations
  added name d member := by
    rw [points_seed] at member
    exact absurd member (PointSet.not_mem_empty d)

theorem OnlyAdded.put {soFar viewed : State} {equation : Equation} {points : PointSet}
    (kept : OnlyAdded equations soFar) (read : OnlyAdded equations viewed)
    (listed : equation ∈ equations) (value : evaluate viewed equation.value = .ok points) :
    OnlyAdded equations (soFar.put equation.target points) where
  names name := by
    have present := (kept.names equation.target).mpr (List.mem_map_of_mem listed)
    rw [State.names_put points present]
    exact kept.names name
  added name d member := by
    by_cases here : name = equation.target
    · rw [here, State.points_put_self] at member
      rcases added_or_held_of_evaluate value member with new | ⟨other, old⟩
      · exact ⟨equation, listed, new⟩
      · exact read.added other d old
    · rw [State.points_put_ne _ _ _ _ here] at member
      exact kept.added name d member

theorem OnlyAdded.stores {start : State} (begun : OnlyAdded equations start) :
    ∀ (front : List Equation) {soFar next : State}, (∀ equation ∈ front, equation ∈ equations) →
      OnlyAdded equations soFar → stores scheme start front soFar = .ok next →
        OnlyAdded equations next := by
  intro front
  induction front with
  | nil =>
      intro soFar next _ kept made
      cases made
      exact kept
  | cons equation rest ih =>
      intro soFar next listed kept made
      obtain ⟨points, value, later⟩ := stores_cons_eq_ok.mp made
      have read : OnlyAdded equations (scheme.view start soFar) := scheme.view_of_both begun kept
      have stored := kept.put read (listed equation List.mem_cons_self) value
      exact ih (fun other member => listed other (List.mem_cons_of_mem _ member)) stored later

theorem PassStart.onlyAdded {state : State} (starts : PassStart scheme equations state) :
    OnlyAdded equations state := by
  induction starts with
  | seed => exact onlyAdded_seed equations
  | next _ made ih => exact ih.stores equations (fun _ => id) ih made

theorem onlyAdded_of_visited {state : State} (visited : Visited scheme equations state) :
    OnlyAdded equations state := by
  obtain ⟨start, front, starts, first, made⟩ := visited
  have begun := starts.onlyAdded
  exact begun.stores front (fun _ member => first.subset member) begun made

/-! ## Whole runs -/

/-- All states of a run hold what is added only.  The seed is one of them, and so are the states
that the run shows after its passes and those that are part of its result. -/
structure InventsNothing (scheme : Scheme) (equations : List Equation) : Prop where
  visited : ∀ state, Visited scheme equations state → OnlyAdded equations state
  seed : Visited scheme equations (seed equations)
  shown : ∀ budget, ∀ state ∈ reported scheme equations budget (Solver.seed equations),
    Visited scheme equations state
  returned : ∀ result, Returns scheme equations result →
    Visited scheme equations result.solution ∧
      ∀ state ∈ result.snapshots, Visited scheme equations state

theorem states_hold_added_definitions (scheme : Scheme) (equations : List Equation) :
    InventsNothing scheme equations where
  visited _ visited := onlyAdded_of_visited visited
  seed := PassStart.seed.visited
  shown budget state member := (passStart_of_reported budget .seed state member).visited
  returned result returns := by
    obtain ⟨closed, last, _, rfl⟩ := returns_iff_settlesAt.mp returns
    refine ⟨(passStart_stateAfter closed last).visited, fun state member => ?_⟩
    obtain ⟨passes, _, rfl⟩ := List.mem_map.mp member
    exact (passStart_stateAfter closed passes).visited

/-- `d2` and `d3` are only ever taken away.  The first pass breaks off at the last value, which refers
to a data point that no equation defines. -/
def abandoned : List Equation :=
  [⟨"L1", .difference (.dataPoint "L2") (.set [.definition "d2"])⟩,
    ⟨"L2", .union (.dataPoint "L1") (.difference (.definition "d1") (.definition "d2"))⟩,
    ⟨"L1", .difference (.dataPoint "L2") (.difference (.definition "d2") (.definition "d3"))⟩,
    ⟨"L3", .body (.dataPoint "L4")⟩]

def halfway : State := .ofList [("L1", .singleton "d1"), ("L2", .singleton "d1"), ("L3", ∅)]

theorem states_hold_added_definitions_abandoned :
    pass .inPlace abandoned (seed abandoned) = .error ⟨"L4"⟩ ∧
      Visited .inPlace abandoned halfway ∧ OnlyAdded abandoned halfway := by
  have visited : Visited .inPlace abandoned halfway :=
    ⟨seed abandoned, abandoned.take 3, .seed, List.take_prefix 3 abandoned, by decide +kernel⟩
  have invents := states_hold_added_definitions .inPlace abandoned
  exact ⟨by decide +kernel, visited, invents.visited halfway visited⟩

end Reaching.Solver
