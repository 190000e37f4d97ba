import Mathlib
import Reaching.Proofs.Solver.LeastSolution
import Reaching.Proofs.Solver.Outcome

/-! # A run in place is never behind

Under `inPlace` an equation reads what the earlier equations of the pass have stored, under `jacobi`
what there was at the start of the pass.  If targets are distinct and no data point is subtracted,
the first reads at least what the second does, so from states that keep this order one pass of each
leads to states that keep it (`passHeld_jacobi_subset`), and so do all passes
(`held_jacobi_subset_inPlace`).

Both runs end in the least solution.  When the run under `jacobi` has reached it, so has the run in
place (`stateAfter_inPlace_of_settlesAt`).  Main fact: `inPlace_leads_jacobi`. -/
set_option autoImplicit false

namespace Reaching.Solver

/-! ## One definition -/

/-- The stores of the two passes, side by side.  What a pass in place has stored so far holds all of
`start`: a data point that is not stored yet has not lost it, and one that is stored keeps its set to
the end of the pass, where nothing of `start` is missing. -/
theorem storesHeld_jacobi_subset {d : String} {start begun : Set String} :
    ∀ (equations : List Equation) (soFar more : Set String), (targets equations).Nodup →
      ConstantSubtrahends equations → soFar ⊆ more → start ⊆ more →
      start ⊆ storesHeld d .inPlace begun equations more →
        storesHeld d .jacobi start equations soFar ⊆ storesHeld d .inPlace begun equations more := by
  intro equations
  induction equations with
  | nil => intro soFar more _ _ grows _ _; exact grows
  | cons equation rest ih =>
      intro soFar more distinct constant grows present final
      rw [targets, List.map_cons, List.nodup_cons] at distinct
      have mono := Node.yields_mono (d := d) present equation.value
        (constant equation List.mem_cons_self)
      refine ih _ _ distinct.2 (fun e member => constant e (List.mem_cons_of_mem _ member))
        (storeHeld_mono mono grows) ?_ final
      intro name member
      by_cases here : name = equation.target
      · subst here
        rw [mem_storeHeld_self]
        exact (mem_storesHeld_target d .inPlace begun distinct.1 more).mp (final member)
      · rw [mem_storeHeld_ne _ _ here]
        exact present member

section OneDefinition

variable {equations : List Equation} (distinct : (targets equations).Nodup)
  (constant : ConstantSubtrahends equations) (d : String)

include distinct constant

theorem passHeld_jacobi_subset {behind ahead : Set String} (below : behind ⊆ ahead)
    (rises : ahead ⊆ passHeld d .inPlace equations ahead) :
    passHeld d .jacobi equations behind ⊆ passHeld d .inPlace equations ahead :=
  storesHeld_jacobi_subset equations behind ahead distinct constant below below (below.trans rises)

theorem iterate_jacobi_subset_inPlace (passes : Nat) :
    (passHeld d .jacobi equations)^[passes] ∅ ⊆ (passHeld d .inPlace equations)^[passes] ∅ := by
  induction passes with
  | zero => exact Set.Subset.rfl
  | succ passes ih =>
      have rises := iterate_subset_succ (passHeld_mono d .inPlace constant) passes
      rw [Function.iterate_succ_apply'] at rises
      rw [Function.iterate_succ_apply', Function.iterate_succ_apply']
      exact passHeld_jacobi_subset distinct constant d ih rises

end OneDefinition

/-! ## All definitions at once -/

section Lead

variable {equations : List Equation} (closed : Closed equations)
  (distinct : (targets equations).Nodup) (constant : ConstantSubtrahends equations)

include closed distinct constant

theorem held_jacobi_subset_inPlace (d : String) (passes : Nat) :
    (stateAfter .jacobi equations passes).held d ⊆
      (stateAfter .inPlace equations passes).held d := by
  rw [held_stateAfter closed, held_stateAfter closed]
  exact iterate_jacobi_subset_inPlace distinct constant d passes

/-- From the pass on in which the run under `jacobi` settles, both runs are in the least solution. -/
theorem stateAfter_inPlace_of_settlesAt {last : Nat} (settles : SettlesAt .jacobi equations last)
    (more : Nat) :
    stateAfter .inPlace equations (more + last) = stateAfter .jacobi equations last := by
  apply State.ext_held
  · rw [names_stateAfter closed, names_stateAfter closed]
  · intro d
    have least := leastHeld_of_settlesAt closed distinct constant settles d
    apply Set.Subset.antisymm
    · exact held_stateAfter_subset_bound closed constant
        (fun equation member => (least.satisfied equation member).mpr) (more + last)
    · have ahead := held_jacobi_subset_inPlace closed distinct constant d (more + last)
      rw [stateAfter_of_unchanged settles.unchanged more] at ahead
      exact ahead

theorem exists_settlesAt_inPlace {last : Nat} (settles : SettlesAt .jacobi equations last) :
    ∃ earlier ≤ last, SettlesAt .inPlace equations earlier := by
  have reached := stateAfter_inPlace_of_settlesAt closed distinct constant settles
  have unchanged : stateAfter .inPlace equations (last + 1) =
      stateAfter .inPlace equations last := by
    have now := reached 0
    have next := reached 1
    rw [Nat.zero_add] at now
    rw [Nat.add_comm] at next
    rw [next, now]
  obtain ⟨earlier, within, first, _⟩ := exists_settlesAt_of_unchanged unchanged
  exact ⟨earlier, within, first⟩

end Lead

/-- After the same number of passes a run in place holds all that a run under `jacobi` does, and it
takes no more iterations and passes. -/
structure InPlaceLeads (equations : List Equation) : Prop where
  ahead : ∃ inPlace jacobi : Nat → State,
    Course .inPlace equations inPlace ∧ Course .jacobi equations jacobi ∧
      ∀ k name, (jacobi k).points name ⊆ (inPlace k).points name
  sooner : ∃ first second : Result,
    solve .inPlace equations = .ok (some first) ∧ solve .jacobi equations = .ok (some second) ∧
      first.iterations ≤ second.iterations ∧ first.passes ≤ second.passes

theorem inPlace_leads_jacobi (equations : List Equation) (distinct : (targets equations).Nodup)
    (closed : Closed equations) (constant : ConstantSubtrahends equations) :
    InPlaceLeads equations := by
  constructor
  · refine ⟨_, _, course_stateAfter closed .inPlace, course_stateAfter closed .jacobi, ?_⟩
    intro k name d member
    exact held_jacobi_subset_inPlace closed distinct constant d k member
  · obtain ⟨last, _, settles⟩ := exists_settlesAt closed constant .jacobi
    obtain ⟨earlier, within, first⟩ := exists_settlesAt_inPlace closed distinct constant settles
    refine ⟨_, _, solve_of_settlesAt closed .inPlace first (first.lt_stateCount closed),
      solve_of_settlesAt closed .jacobi settles (settles.lt_stateCount closed), ?_, ?_⟩
    · exact max_le_max within le_rfl
    · exact Nat.succ_le_succ within

def circuit : List Equation :=
  [⟨"L1", .union (.dataPoint "L3") (.set [.definition "d1"])⟩,
    ⟨"L2", .difference (.dataPoint "L1") (.set [.definition "d2"])⟩,
    ⟨"L3", .body (.union (.dataPoint "L2") (.definition "d3"))⟩]

theorem inPlace_leads_jacobi_circuit :
    (targets circuit).Nodup ∧ Closed circuit ∧ ConstantSubtrahends circuit ∧
      InPlaceLeads circuit := by
  have distinct : (targets circuit).Nodup := by decide
  have closed : Closed circuit := by decide
  have constant : ConstantSubtrahends circuit := by decide
  exact ⟨distinct, closed, constant, inPlace_leads_jacobi circuit distinct closed constant⟩

end Reaching.Solver
