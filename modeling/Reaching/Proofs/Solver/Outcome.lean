import Mathlib
import Reaching.Proofs.Solver.Rounds

/-! # How a run ends

Once a pass leaves a state unchanged, the states stay as they are, and until then no two of them
are equal (`SettlesAt.injOn`).  A system has no more than `stateCount` states, so its passes settle
before as many passes are made, or never (`SettlesAt.lt_stateCount`); this is so for all closed
systems, whatever they subtract.

`Course` names the states that follow one another by `pass` from the seed.  Main facts:
`course_stateAfter` (every closed system has a course, and each run ends in one of its states),
`solve_eq_some_iff` (there is a result exactly if the passes settle) and `exists_solve_of_image` (a
run that mirrors another has a result if the other has one). -/
set_option autoImplicit false

namespace Reaching.Solver

/-! ## The first state that a pass leaves unchanged -/

section Unchanged

variable {scheme : Scheme} {equations : List Equation}

theorem stateAfter_add (more passes : Nat) :
    stateAfter scheme equations (more + passes) =
      (advance scheme equations)^[more] (stateAfter scheme equations passes) :=
  Function.iterate_add_apply _ _ _ _

theorem stateAfter_of_unchanged {last : Nat}
    (unchanged : stateAfter scheme equations (last + 1) = stateAfter scheme equations last)
    (more : Nat) :
    stateAfter scheme equations (more + last) = stateAfter scheme equations last := by
  rw [stateAfter_succ] at unchanged
  rw [stateAfter_add]
  exact Function.iterate_fixed unchanged more

/-- If a pass leaves a state unchanged, the run has settled there or earlier. -/
theorem exists_settlesAt_of_unchanged {passes : Nat}
    (unchanged : stateAfter scheme equations (passes + 1) = stateAfter scheme equations passes) :
    ∃ last ≤ passes, SettlesAt scheme equations last ∧
      stateAfter scheme equations last = stateAfter scheme equations passes := by
  classical
  have stops : ∃ last, stateAfter scheme equations (last + 1) = stateAfter scheme equations last :=
    ⟨passes, unchanged⟩
  have first := Nat.find_spec stops
  have early : Nat.find stops ≤ passes := Nat.find_min' stops unchanged
  refine ⟨Nat.find stops, early, ⟨first, fun k before => Nat.find_min stops before⟩, ?_⟩
  have later := stateAfter_of_unchanged first (passes - Nat.find stops)
  rw [Nat.sub_add_cancel early] at later
  exact later.symm

/-- No state occurs twice before the run has settled: from the second time on it would go through
the same states as from the first, and so never come to rest. -/
theorem SettlesAt.injOn {last : Nat} (settles : SettlesAt scheme equations last) :
    Set.InjOn (stateAfter scheme equations) (Set.Iic last) := by
  have apart : ∀ i j, i < j → j ≤ last →
      stateAfter scheme equations i ≠ stateAfter scheme equations j := by
    intro i j before within same
    -- The state `last - j` passes after `i` is the last one, and a pass changes it.
    have again : stateAfter scheme equations (last - j + i) = stateAfter scheme equations last := by
      have along := congrArg (advance scheme equations)^[last - j] same
      rw [← stateAfter_add, ← stateAfter_add, Nat.sub_add_cancel within] at along
      exact along
    apply settles.changing (last - j + i) (by omega)
    rw [stateAfter_succ, again, ← stateAfter_succ, settles.unchanged]
  intro i inside j within same
  rw [Set.mem_Iic] at inside within
  rcases Nat.lt_trichotomy i j with before | equal | after
  · exact absurd same (apart i j before within)
  · exact equal
  · exact absurd same.symm (apart j i after inside)

end Unchanged

/-! ## A system has finitely many states -/

theorem PointSet.nodup_names (points : PointSet) : points.names.Nodup :=
  points.ascending.imp fun below => String.ne_of_lt below

def written (equations : List Equation) : PointSet :=
  PointSet.ofList (equations.flatMap (definitionsIn ·.value))

theorem mem_written (d : String) (equations : List Equation) :
    d ∈ written equations ↔ ∃ equation ∈ equations, d ∈ definitionsIn equation.value := by
  rw [written, PointSet.mem_ofList, List.mem_flatMap]

theorem storesHeld_of_unwritten {d : String} (scheme : Scheme) : ∀ equations : List Equation,
    d ∉ written equations → storesHeld d scheme ∅ equations ∅ = ∅ := by
  intro equations
  induction equations with
  | nil => intro _; rfl
  | cons equation rest ih =>
      intro unwritten
      simp only [mem_written, List.exists_mem_cons_iff, not_or] at unwritten
      have vain : ¬ equation.value.Yields d ∅ := by
        intro yields
        rcases Node.mem_definitionsIn_of_yields equation.value yields with here | ⟨_, nothing⟩
        · exact unwritten.1 here
        · exact nothing
      rw [storesHeld, Scheme.view_self, storeHeld_of_iff (iff_of_false vain (Set.notMem_empty _))]
      exact ih (fun later => unwritten.2 ((mem_written d rest).mp later))

def cells (equations : List Equation) : Finset (String × String) :=
  (seed equations).names.toFinset ×ˢ (written equations).names.toFinset

theorem card_powerset_cells (equations : List Equation) :
    (cells equations).powerset.card = stateCount equations := by
  have distinct : (seed equations).names.Nodup := (seed equations).nodup
  have different := (written equations).nodup_names
  rw [Finset.card_powerset, cells, Finset.card_product, List.toFinset_card_of_nodup distinct,
    List.toFinset_card_of_nodup different, State.names, List.length_map]
  rfl

def heldCells (scheme : Scheme) (equations : List Equation) (passes : Nat) :
    Finset (String × String) :=
  (cells equations).filter fun cell => cell.2 ∈ (stateAfter scheme equations passes).points cell.1

section Closed

variable {equations : List Equation} (closed : Closed equations) {scheme : Scheme}

include closed

theorem mem_written_of_held {passes : Nat} {d name : String}
    (member : name ∈ (stateAfter scheme equations passes).held d) : d ∈ written equations := by
  by_contra unwritten
  have still : passHeld d scheme equations ∅ = ∅ :=
    storesHeld_of_unwritten scheme equations unwritten
  rw [held_stateAfter closed scheme, Function.iterate_fixed still] at member
  exact member

theorem mem_heldCells {passes : Nat} {d name : String} :
    (name, d) ∈ heldCells scheme equations passes ↔
      name ∈ (stateAfter scheme equations passes).held d := by
  rw [heldCells, Finset.mem_filter, cells, Finset.mem_product, List.mem_toFinset, List.mem_toFinset]
  constructor
  · exact And.right
  · intro member
    refine ⟨⟨?_, mem_written_of_held closed member⟩, member⟩
    rw [← names_stateAfter closed scheme passes]
    exact State.held_subset_names d _ member

theorem stateAfter_eq_of_heldCells_eq {i j : Nat}
    (same : heldCells scheme equations i = heldCells scheme equations j) :
    stateAfter scheme equations i = stateAfter scheme equations j := by
  apply State.ext_held
  · rw [names_stateAfter closed, names_stateAfter closed]
  · intro d
    ext name
    rw [← mem_heldCells closed, ← mem_heldCells closed, same]

/-- States that are different differ in the cells that they hold. -/
theorem lt_stateCount_of_injOn {last : Nat}
    (different : Set.InjOn (stateAfter scheme equations) (Set.Iic last)) :
    last < stateCount equations := by
  have injective : Set.InjOn (heldCells scheme equations) (Finset.range (last + 1)) := by
    intro i inside j within same
    rw [Finset.coe_range, Set.mem_Iio] at inside within
    apply different (Nat.le_of_lt_succ inside) (Nat.le_of_lt_succ within)
    exact stateAfter_eq_of_heldCells_eq closed same
  have among : Set.MapsTo (heldCells scheme equations) (Finset.range (last + 1))
      (cells equations).powerset :=
    fun _ _ => Finset.mem_coe.mpr (Finset.mem_powerset.mpr (Finset.filter_subset _ _))
  have many := Finset.card_le_card_of_injOn (heldCells scheme equations) among injective
  rw [Finset.card_range, card_powerset_cells] at many
  exact many

theorem SettlesAt.lt_stateCount {last : Nat} (settles : SettlesAt scheme equations last) :
    last < stateCount equations :=
  lt_stateCount_of_injOn closed settles.injOn

end Closed

/-! ## Runs and their results -/

section Runs

variable {equations : List Equation} (closed : Closed equations) (scheme : Scheme)

include closed

/-- A run of any length ends in the state after as many passes, and is settled only if a pass leaves
that state unchanged. -/
theorem iterate_spec : ∀ budget made : Nat,
    ∃ run, iterate scheme equations budget (stateAfter scheme equations made) = .ok run ∧
      run.states.getLastD (stateAfter scheme equations made) =
        stateAfter scheme equations (budget + made) ∧
      (run.settled = true → stateAfter scheme equations (budget + made + 1) =
        stateAfter scheme equations (budget + made)) := by
  intro budget
  induction budget with
  | zero =>
      intro made
      rw [Nat.zero_add]
      exact ⟨⟨[], false⟩, rfl, rfl, fun settled => absurd settled Bool.false_ne_true⟩
  | succ budget ih =>
      intro made
      have step := pass_stateAfter closed scheme made
      by_cases stable : stateAfter scheme equations (made + 1) = stateAfter scheme equations made
      · have stays := stateAfter_of_unchanged stable
        refine ⟨_, iterate_succ_eq_ok.mpr ⟨_, step, .inl ⟨stable, rfl⟩⟩, ?_, fun _ => ?_⟩
        · rw [stays (budget + 1)]
          exact stable
        · have longer := stays (budget + 2)
          rw [show budget + 2 + made = budget + 1 + made + 1 by omega] at longer
          rw [longer, stays (budget + 1)]
      · obtain ⟨run, ran, final, settled⟩ := ih (made + 1)
        have passes : budget + (made + 1) = budget + 1 + made := by omega
        rw [passes] at final settled
        refine ⟨_, iterate_succ_eq_ok.mpr ⟨_, step, .inr ⟨stable, run, ran, rfl⟩⟩, ?_, settled⟩
        rw [List.getLastD_cons]
        exact final

/-- There is a result exactly if the passes settle. -/
theorem solve_eq_some_iff {result : Result} :
    solve scheme equations = .ok (some result) ↔
      ∃ last, SettlesAt scheme equations last ∧
        result = ⟨max last 1, last + 1, stateAfter scheme equations last,
          (settledRun scheme equations last).states⟩ := by
  constructor
  · intro solved
    obtain ⟨run, ran, _, settled⟩ := iterate_spec closed scheme (stateCount equations) 0
    have rest : run.settled = true := by
      by_contra going
      change iterate scheme equations _ (seed equations) = .ok run at ran
      simp [solve, ran, bind, Except.bind, going, pure, Except.pure] at solved
    obtain ⟨last, _, settles, _⟩ := exists_settlesAt_of_unchanged (settled rest)
    have found := solve_of_settlesAt closed scheme settles (settles.lt_stateCount closed)
    rw [solved] at found
    exact ⟨last, settles, Option.some.inj (Except.ok.inj found)⟩
  · rintro ⟨last, settles, rfl⟩
    exact solve_of_settlesAt closed scheme settles (settles.lt_stateCount closed)

/-- If the states of one run are the images of those of another, the first settles no later, in the
image of the state in which the second settles. -/
theorem exists_solve_of_image {others : List Equation} (defined : Closed others)
    {image : State → State}
    (follows : ∀ k, stateAfter scheme others k = image (stateAfter scheme equations k))
    {result : Result} (solved : solve scheme equations = .ok (some result)) :
    ∃ mirrored, solve scheme others = .ok (some mirrored) ∧
      mirrored.passes ≤ result.passes ∧ mirrored.solution = image result.solution := by
  obtain ⟨last, settles, rfl⟩ := (solve_eq_some_iff closed scheme).mp solved
  have unchanged : stateAfter scheme others (last + 1) = stateAfter scheme others last := by
    rw [follows, follows, settles.unchanged]
  obtain ⟨earlier, within, first, same⟩ := exists_settlesAt_of_unchanged unchanged
  have found := (solve_eq_some_iff defined scheme).mpr ⟨earlier, first, rfl⟩
  exact ⟨_, found, Nat.succ_le_succ within, same.trans (follows last)⟩

end Runs

/-- The states of a system, pass after pass from the seed.  A run that may make `budget` passes ends
in the state of that number, also if it settles earlier. -/
structure Course (scheme : Scheme) (equations : List Equation) (states : Nat → State) : Prop where
  start : states 0 = seed equations
  follows : ∀ k, pass scheme equations (states k) = .ok (states (k + 1))
  ends : ∀ budget, ∃ run, iterate scheme equations budget (seed equations) = .ok run ∧
    run.states.getLastD (seed equations) = states budget

theorem course_stateAfter {equations : List Equation} (closed : Closed equations)
    (scheme : Scheme) : Course scheme equations (stateAfter scheme equations) where
  start := rfl
  follows := pass_stateAfter closed scheme
  ends budget := by
    obtain ⟨run, ran, final, _⟩ := iterate_spec closed scheme budget 0
    exact ⟨run, ran, final⟩

end Reaching.Solver
