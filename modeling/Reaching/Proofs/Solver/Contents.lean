import Reaching.Solver.Equation
import Mathlib.Data.Set.Basic

/-! # What a state holds

`State.points` is the set that a state holds for a name, empty for a name it lacks.  A state is
determined by its names in order and the sets it holds for them (`State.ext_points`), and a store
to a present name keeps the names (`State.names_put`).

`State.held d` is the set of data points that hold one definition.  The seed of a system has its
targets for names, and nothing is held in it. -/
set_option autoImplicit false

namespace Reaching.Solver

namespace State

def points (state : State) (name : String) : PointSet := (state.get? name).getD ∅

theorem lookup_isSome_iff (name : String) : ∀ entries : List (String × PointSet),
    (entries.lookup name).isSome ↔ name ∈ entries.map Prod.fst := by
  intro entries
  induction entries with
  | nil => simp
  | cons entry rest ih =>
      obtain ⟨head, old⟩ := entry
      rw [List.lookup_cons, List.map_cons, List.mem_cons]
      by_cases same : name = head
      · simp [same]
      · have unequal : (name == head) = false := beq_false_of_ne same
        rw [unequal, ih]
        exact (or_iff_right same).symm

theorem get?_of_mem {state : State} {name : String} (present : name ∈ state.names) :
    state.get? name = some (state.points name) := by
  obtain ⟨set, found⟩ := Option.isSome_iff_exists.mp
    ((lookup_isSome_iff name state.entries).mpr present)
  rw [points, show state.get? name = some set from found, Option.getD_some]

theorem points_of_notMem {state : State} {name : String} (absent : name ∉ state.names) :
    state.points name = ∅ := by
  have missing : ¬ (state.get? name).isSome := fun found =>
    absent ((lookup_isSome_iff name state.entries).mp found)
  rw [points, Option.not_isSome_iff_eq_none.mp missing, Option.getD_none]

@[simp] theorem points_put_self (state : State) (name : String) (set : PointSet) :
    (state.put name set).points name = set := by
  rw [points, get?_put_self, Option.getD_some]

theorem points_put_ne (state : State) (name other : String) (set : PointSet)
    (different : other ≠ name) : (state.put name set).points other = state.points other := by
  rw [points, get?_put_ne state name other set different, points]

theorem mem_names_put (state : State) (name other : String) (set : PointSet) :
    other ∈ (state.put name set).names ↔ other = name ∨ other ∈ state.names :=
  mem_names_assign name other set state.entries

theorem map_fst_assign (name : String) (set : PointSet) : ∀ entries : List (String × PointSet),
    name ∈ entries.map Prod.fst → (assign name set entries).map Prod.fst = entries.map Prod.fst := by
  intro entries
  induction entries with
  | nil => intro present; simp at present
  | cons entry rest ih =>
      intro present
      obtain ⟨head, old⟩ := entry
      rw [assign]
      by_cases same : head = name
      · rw [if_pos same]
        rfl
      · rw [if_neg same, List.map_cons, List.map_cons]
        rw [List.map_cons, List.mem_cons] at present
        rw [ih (present.resolve_left (Ne.symm same))]

theorem names_put {state : State} {name : String} (set : PointSet) (present : name ∈ state.names) :
    (state.put name set).names = state.names :=
  map_fst_assign name set state.entries present

/-- Entries with distinct names are determined by their names and what is found for them. -/
theorem entries_eq_of_lookup : ∀ left right : List (String × PointSet),
    (left.map Prod.fst).Nodup → left.map Prod.fst = right.map Prod.fst →
      (∀ name ∈ left.map Prod.fst, left.lookup name = right.lookup name) → left = right := by
  intro left
  induction left with
  | nil =>
      intro right _ names _
      exact (List.map_eq_nil_iff.mp names.symm).symm
  | cons entry rest ih =>
      intro right distinct names same
      obtain ⟨head, set⟩ := entry
      cases right with
      | nil => simp at names
      | cons other more =>
          obtain ⟨first, found⟩ := other
          simp only [List.map_cons, List.cons.injEq, List.nodup_cons] at names distinct
          obtain ⟨rfl, names⟩ := names
          have here : set = found := by
            have := same head List.mem_cons_self
            simpa [List.lookup_cons] using this
          have later : rest = more := by
            refine ih more distinct.2 names fun name member => ?_
            have unequal : (name == head) = false :=
              beq_false_of_ne fun e => distinct.1 (e ▸ member)
            have := same name (List.mem_cons_of_mem _ member)
            simpa [List.lookup_cons, unequal] using this
          rw [here, later]

theorem ext_points {left right : State} (names : left.names = right.names)
    (same : ∀ name, left.points name = right.points name) : left = right := by
  have entries : left.entries = right.entries := by
    refine entries_eq_of_lookup left.entries right.entries left.nodup names fun name member => ?_
    have there : name ∈ right.names := names ▸ member
    exact (get?_of_mem member).trans ((same name ▸ (get?_of_mem there).symm))
  cases left
  cases right
  congr

/-! ## The data points that hold one definition -/

def held (d : String) (state : State) : Set String := {name | d ∈ state.points name}

theorem mem_held {d name : String} {state : State} :
    name ∈ state.held d ↔ d ∈ state.points name := Iff.rfl

theorem held_subset_names (d : String) (state : State) :
    state.held d ⊆ {name | name ∈ state.names} := by
  intro name member
  by_contra absent
  rw [mem_held, points_of_notMem absent] at member
  exact PointSet.not_mem_empty d member

/-- States with the same names that hold the same definitions are equal. -/
theorem ext_held {left right : State} (names : left.names = right.names)
    (same : ∀ d, left.held d = right.held d) : left = right := by
  refine ext_points names fun name => PointSet.ext fun d => ?_
  exact Set.ext_iff.mp (same d) name

end State

/-! ## The seed -/

def targets (equations : List Equation) : List String := equations.map Equation.target

theorem mem_names_foldl_put (name : String) : ∀ (equations : List Equation) (state : State),
    name ∈ (equations.foldl (fun s equation => s.put equation.target ∅) state).names ↔
      name ∈ state.names ∨ name ∈ targets equations := by
  intro equations
  induction equations with
  | nil => intro state; simp [targets]
  | cons equation rest ih =>
      intro state
      rw [List.foldl_cons, ih, State.mem_names_put, targets, targets, List.map_cons, List.mem_cons]
      constructor
      · rintro ((h | h) | h) <;> simp [h]
      · rintro (h | h | h) <;> simp [h]

theorem mem_names_seed (name : String) (equations : List Equation) :
    name ∈ (seed equations).names ↔ name ∈ targets equations := by
  rw [seed, mem_names_foldl_put]
  exact or_iff_right (List.not_mem_nil)

theorem points_foldl_put (name : String) : ∀ (equations : List Equation) (state : State),
    state.points name = ∅ →
      (equations.foldl (fun s equation => s.put equation.target ∅) state).points name = ∅ := by
  intro equations
  induction equations with
  | nil => intro state vacant; exact vacant
  | cons equation rest ih =>
      intro state vacant
      rw [List.foldl_cons]
      apply ih
      by_cases same : name = equation.target
      · rw [same, State.points_put_self]
      · rw [State.points_put_ne _ _ _ _ same, vacant]

theorem points_seed (name : String) (equations : List Equation) :
    (seed equations).points name = ∅ :=
  points_foldl_put name equations ∅ rfl

theorem held_seed (d : String) (equations : List Equation) : (seed equations).held d = ∅ := by
  refine Set.eq_empty_of_forall_notMem fun name member => ?_
  rw [State.mem_held, points_seed] at member
  exact PointSet.not_mem_empty d member

end Reaching.Solver
