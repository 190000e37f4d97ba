import Mathlib
import Reaching.Proofs.Solver.Convergence
import Reaching.Proofs.Solver.Loop

/-! # A run that does not return goes round

Every state of a run holds some of the cells of its system, one for each pair of a target and a
definition, so there are `2 ^ (n * m)` states of `n` targets and `m` definitions
(`stateCount_eq_two_pow`).  After as many passes some state has occurred twice.  The first that does
decides the run: if it follows on itself the run has settled, and if it comes back later the run
never settles (`not_settlesAt_of_recurrence`) and goes through the states between for ever
(`oscillates_of_recurrence`).

Main fact: `returns_or_oscillates`.  It holds of all closed systems, whatever they subtract. -/
set_option autoImplicit false

namespace Reaching.Solver

/-! ## The number of states -/

theorem card_written (equations : List Equation) :
    (written equations).names.length =
      (equations.flatMap (definitionsIn ·.value)).toFinset.card := by
  have same : (written equations).names.toFinset =
      (equations.flatMap (definitionsIn ·.value)).toFinset := by
    ext d
    rw [List.mem_toFinset, List.mem_toFinset]
    exact PointSet.mem_ofList d _
  rw [← same, List.toFinset_card_of_nodup (written equations).nodup_names]

theorem stateCount_eq_two_pow (equations : List Equation) :
    stateCount equations = 2 ^ ((targets equations).toFinset.card *
      (equations.flatMap (definitionsIn ·.value)).toFinset.card) := by
  rw [card_targets, ← card_written]
  rfl

/-! ## The first state that occurs again -/

/-- In a sequence with repetitions, the first element that has occurred before. -/
theorem exists_first_recurrence {α : Type} {states : Nat → α} {bound : Nat}
    (repetitive : ¬ Set.InjOn states (Set.Iic bound)) :
    ∃ start last, start < last ∧ last ≤ bound ∧ states last = states start ∧
      Set.InjOn states (Set.Iio last) := by
  classical
  have recurs : ∃ last ≤ bound, ∃ start < last, states last = states start := by
    by_contra none
    apply repetitive
    intro i inside j within same
    rcases Nat.lt_trichotomy i j with before | equal | after
    · exact absurd ⟨j, within, i, before, same.symm⟩ none
    · exact equal
    · exact absurd ⟨i, inside, j, after, same⟩ none
  obtain ⟨some, within, again⟩ := recurs
  have first : ∃ last, ∃ start < last, states last = states start := ⟨some, again⟩
  obtain ⟨start, before, same⟩ := Nat.find_spec first
  refine ⟨start, Nat.find first, before, (Nat.find_min' first again).trans within, same, ?_⟩
  intro i inside j early equal
  rcases Nat.lt_trichotomy i j with less | done | more
  · exact absurd ⟨i, less, equal.symm⟩ (Nat.find_min first early)
  · exact done
  · exact absurd ⟨j, more, equal⟩ (Nat.find_min first inside)

/-- From `start` on the states recur after `period` passes and no sooner, and there are several. -/
structure Oscillates (states : Nat → State) (start period : Nat) : Prop where
  several : 2 ≤ period
  recurs : ∀ k, start ≤ k → states (k + period) = states k
  different : Set.InjOn states (Set.Ico start (start + period))

section Recurrence

variable {scheme : Scheme} {equations : List Equation} {start period : Nat}
  (again : stateAfter scheme equations (start + period) = stateAfter scheme equations start)
  (different : Set.InjOn (stateAfter scheme equations) (Set.Iio (start + period)))

include again

theorem stateAfter_recurs {k : Nat} (later : start ≤ k) :
    stateAfter scheme equations (k + period) = stateAfter scheme equations k := by
  obtain ⟨more, rfl⟩ := Nat.exists_eq_add_of_le' later
  rw [Nat.add_assoc, stateAfter_add, again, ← stateAfter_add]

include different

theorem oscillates_of_recurrence (several : 2 ≤ period) :
    Oscillates (stateAfter scheme equations) start period where
  several := several
  recurs _ later := stateAfter_recurs again later
  different := different.mono fun _ inside => inside.2

/-- A settled state would follow on itself, but no state up to the first that recurs does. -/
theorem not_settlesAt_of_recurrence (several : 2 ≤ period) (last : Nat) :
    ¬ SettlesAt scheme equations last := by
  intro settles
  have inside : ∀ {k : Nat}, k < start + period → k ∈ Set.Iio (start + period) := Set.mem_Iio.mpr
  rcases Nat.lt_trichotomy (last + 1) (start + period) with before | equal | after
  · have := different (inside before) (inside (by omega)) settles.unchanged
    omega
  · have closing : stateAfter scheme equations last = stateAfter scheme equations start := by
      rw [← settles.unchanged, equal, again]
    have := different (inside (by omega)) (inside (by omega)) closing
    omega
  · have := settles.injOn (Set.mem_Iic.mpr (by omega)) (Set.mem_Iic.mpr (by omega)) again
    omega

end Recurrence

/-! ## What becomes of a run -/

/-- A run returns within a number of passes or goes round for ever, and a pass that still changes
something when that number is reached tells which. -/
structure ReturnsOrOscillates (scheme : Scheme) (equations : List Equation)
    (states : Nat → State) (bound : Nat) : Prop where
  either : (∃ result, Returns scheme equations result ∧ result.passes ≤ bound) ∨
    (¬ ∃ result, Returns scheme equations result) ∧
      ∃ start period, start + period ≤ bound ∧ Oscillates states start period
  late : ∀ k, bound ≤ k + 1 → states (k + 1) ≠ states k →
    (¬ ∃ result, Returns scheme equations result) ∧ ∃ start period, Oscillates states start period

section Closed

variable {equations : List Equation} (closed : Closed equations) (scheme : Scheme)

include closed

theorem returns_or_goes_round :
    (∃ last < stateCount equations, SettlesAt scheme equations last) ∨
      (∀ last, ¬ SettlesAt scheme equations last) ∧
        ∃ start period, start + period ≤ stateCount equations ∧
          Oscillates (stateAfter scheme equations) start period := by
  have repetitive : ¬ Set.InjOn (stateAfter scheme equations) (Set.Iic (stateCount equations)) :=
    fun different => Nat.lt_irrefl _ (lt_stateCount_of_injOn closed different)
  obtain ⟨start, last, before, within, again, different⟩ := exists_first_recurrence repetitive
  obtain ⟨period, rfl⟩ := Nat.exists_eq_add_of_le (Nat.le_of_lt before)
  rcases (by omega : period = 1 ∨ 2 ≤ period) with rfl | several
  · left
    obtain ⟨early, sooner, settles, _⟩ := exists_settlesAt_of_unchanged again
    exact ⟨early, by omega, settles⟩
  · right
    exact ⟨not_settlesAt_of_recurrence again different several, start, period, within,
      oscillates_of_recurrence again different several⟩

end Closed

theorem returns_or_oscillates (equations : List Equation) (closed : Closed equations)
    (scheme : Scheme) :
    ∃ states, Course scheme equations states ∧
      ReturnsOrOscillates scheme equations states
        (2 ^ ((targets equations).toFinset.card *
          (equations.flatMap (definitionsIn ·.value)).toFinset.card)) := by
  refine ⟨_, course_stateAfter closed scheme, ?_⟩
  rw [← stateCount_eq_two_pow]
  rcases returns_or_goes_round closed scheme with
    ⟨last, few, settles⟩ | ⟨never, start, period, within, oscillates⟩
  · constructor
    · exact .inl ⟨_, returns_iff_settlesAt.mpr ⟨closed, last, settles, rfl⟩, few⟩
    · intro k many changed
      obtain ⟨more, rfl⟩ := Nat.exists_eq_add_of_le' (show last ≤ k by omega)
      have next := stateAfter_of_unchanged settles.unchanged (more + 1)
      rw [Nat.add_right_comm] at next
      exact absurd (next.trans (stateAfter_of_unchanged settles.unchanged more).symm) changed
  · have unreturning : ¬ ∃ result, Returns scheme equations result := by
      rintro ⟨result, returns⟩
      obtain ⟨_, last, settles, _⟩ := returns_iff_settlesAt.mp returns
      exact never last settles
    constructor
    · exact .inr ⟨unreturning, start, period, within, oscillates⟩
    · exact fun _ _ _ => ⟨unreturning, start, period, oscillates⟩

def alternating : List Equation :=
  [⟨"L1", .difference (.set [.definition "d1", .dataPoint "L3"]) (.dataPoint "L2")⟩,
    ⟨"L2", .body (.dataPoint "L1")⟩,
    ⟨"L3", .union (.dataPoint "L2") (.definition "d2")⟩]

theorem returns_or_oscillates_alternating :
    Closed alternating ∧ ∃ states, Course .jacobi alternating states ∧
      ReturnsOrOscillates .jacobi alternating states (2 ^ (3 * 2)) := by
  have closed : Closed alternating := by decide
  exact ⟨closed, returns_or_oscillates alternating closed .jacobi⟩

example : solve .jacobi alternating = .ok none := by decide +kernel

end Reaching.Solver
