import Mathlib
import Reaching.Proofs.Solver.Convergence
import Reaching.Proofs.Solver.Outcome

/-! # What a reference to a later equation costs

A pass in place reads what the earlier equations of the pass have stored, so a definition travels
along any number of references to earlier equations within one pass.  It waits for the next pass only
where an equation refers to a data point that a later one defines; `lookingAhead` lists the targets of
these equations.

Take two passes in a row, of which the second ends elsewhere than the first.  The first equation whose
target comes out differently has read something else, in a data point that is stored after it
(`storesHeld_again`).  So every such pass gives some definition to a target that looks ahead, and as no
target is given a definition twice, there are no more of them than targets that look ahead.

Main fact: `inPlace_passes_le_lookingAhead`. -/
set_option autoImplicit false

namespace Reaching.Solver

/-- Lists the targets of the equations that refer to a data point which a later equation defines. -/
def lookingAhead : List Equation → List String
  | [] => []
  | equation :: rest =>
    if equation.value.references.any (· ∈ targets rest) then
      equation.target :: lookingAhead rest
    else lookingAhead rest

theorem mem_lookingAhead_cons_of_mem {equation : Equation} {rest : List Equation} {name : String}
    (member : name ∈ lookingAhead rest) : name ∈ lookingAhead (equation :: rest) := by
  rw [lookingAhead]
  split
  · exact List.mem_cons_of_mem _ member
  · exact member

/-! ## One definition -/

section Again

variable {d : String} {equation : Equation} {rest : List Equation} {soFar final : Set String}
  (stored : ∀ name ∉ targets rest, name ≠ equation.target → (name ∈ final ↔ name ∈ soFar))
  (own : equation.target ∈ final ↔ equation.value.Yields d soFar) (grows : soFar ⊆ final)

include stored own grows

/-- An equation that does not look ahead yields nothing at the end of a pass that it has not yielded
at its turn: only its own target has been stored since, of all that it refers to. -/
theorem mem_of_yields_final (behind : ∀ name ∈ equation.value.references, name ∉ targets rest)
    (yields : equation.value.Yields d final) : equation.target ∈ final := by
  by_contra absent
  refine absent (own.mpr ((Node.yields_congr equation.value fun name reference => ?_).mp yields))
  by_cases here : name = equation.target
  · subst here
    exact iff_of_false absent fun before => absent (grows before)
  · exact stored name (behind name reference) here

/-- At the end of a pass a target has what its equation yields there, or the equation looks ahead. -/
theorem yields_final_iff (constant : equation.value.subtracted = [])
    (late : equation.target ∈ lookingAhead (equation :: rest) →
      equation.value.Yields d final → equation.target ∈ final) :
    equation.value.Yields d final ↔ equation.target ∈ final := by
  constructor
  · intro yields
    by_cases ahead : equation.value.references.any (· ∈ targets rest)
    · refine late ?_ yields
      rw [lookingAhead, if_pos ahead]
      exact List.mem_cons_self
    · exact mem_of_yields_final stored own grows (by simpa using ahead) yields
  · intro present
    exact Node.yields_mono grows equation.value constant (own.mp present)

end Again

/-- A pass that begins where the pass before has ended changes nothing, if it gives the definition to
no further target that looks ahead. -/
theorem storesHeld_again {d : String} {start begun : Set String} :
    ∀ (equations : List Equation) (soFar final : Set String), (targets equations).Nodup →
      ConstantSubtrahends equations → soFar ⊆ final →
      storesHeld d .inPlace start equations soFar = final →
      (∀ name ∈ lookingAhead equations,
        name ∈ storesHeld d .inPlace begun equations final → name ∈ final) →
        storesHeld d .inPlace begun equations final = final := by
  intro equations
  induction equations with
  | nil => intro _ _ _ _ _ _ _; rfl
  | cons equation rest ih =>
      intro soFar final distinct constant grows ended late
      rw [targets, List.map_cons, List.nodup_cons] at distinct
      have own : equation.target ∈ final ↔ equation.value.Yields d soFar := by
        rw [← ended]
        exact mem_storesHeld_target d .inPlace start distinct.1 soFar
      have stored : ∀ name ∉ targets rest, name ≠ equation.target →
          (name ∈ final ↔ name ∈ soFar) := by
        intro name after different
        rw [← ended]
        apply mem_storesHeld_of_notMem
        rw [targets, List.map_cons, List.mem_cons, not_or]
        exact ⟨different, after⟩
      -- The second pass gives the definition to this target, which is stored only once.
      have same : equation.value.Yields d final ↔ equation.target ∈ final :=
        yields_final_iff stored own grows (constant equation List.mem_cons_self) fun ahead yields =>
          late _ ahead ((mem_storesHeld_target d .inPlace begun distinct.1 final).mpr yields)
      have unchanged : storesHeld d .inPlace begun (equation :: rest) final =
          storesHeld d .inPlace begun rest final := by
        rw [storesHeld]
        exact congrArg _ (storeHeld_of_iff same)
      rw [unchanged] at late ⊢
      apply ih _ final distinct.2 (fun e member => constant e (List.mem_cons_of_mem _ member)) ?_ ended
      · exact fun name member => late name (mem_lookingAhead_cons_of_mem member)
      · intro name member
        by_cases here : name = equation.target
        · subst here
          rw [mem_storeHeld_self] at member
          exact own.mpr member
        · rw [mem_storeHeld_ne _ _ here] at member
          exact grows member

section OneDefinition

variable {equations : List Equation} (distinct : (targets equations).Nodup)
  (constant : ConstantSubtrahends equations) (d : String)

include distinct constant

/-- Every change after the first pass gives the definition to a target that looks ahead. -/
theorem exists_gain_ahead {k : Nat} (later : 1 ≤ k)
    (changed : (passHeld d .inPlace equations)^[k + 1] ∅ ≠ (passHeld d .inPlace equations)^[k] ∅) :
    ∃ name ∈ lookingAhead equations, name ∈ (passHeld d .inPlace equations)^[k + 1] ∅ ∧
      name ∉ (passHeld d .inPlace equations)^[k] ∅ := by
  obtain ⟨k, rfl⟩ := Nat.exists_eq_add_of_le' later
  have grows := iterate_subset_succ (passHeld_mono d .inPlace constant) k
  have before := Function.iterate_succ_apply' (passHeld d .inPlace equations) k ∅
  rw [Function.iterate_succ_apply' _ (k + 1)] at changed ⊢
  by_contra none
  push Not at none
  exact changed (storesHeld_again equations _ _ distinct constant grows before.symm none)

theorem iterate_inPlace_stable {k : Nat} (enough : (lookingAhead equations).length < k) :
    (passHeld d .inPlace equations)^[k + 1] ∅ = (passHeld d .inPlace equations)^[k] ∅ := by
  have card := List.toFinset_card_le (lookingAhead equations)
  refine iterate_stable_of_news (passHeld_mono d .inPlace constant) 1
    (lookingAhead equations).toFinset ?_ (by omega)
  intro k later changed
  obtain ⟨name, ahead, gained⟩ := exists_gain_ahead distinct constant d later changed
  exact ⟨name, List.mem_toFinset.mpr ahead, gained⟩

end OneDefinition

/-! ## All definitions at once -/

theorem stateAfter_inPlace_stable {equations : List Equation} (closed : Closed equations)
    (distinct : (targets equations).Nodup) (constant : ConstantSubtrahends equations) {passes : Nat}
    (enough : (lookingAhead equations).length < passes) :
    stateAfter .inPlace equations (passes + 1) = stateAfter .inPlace equations passes := by
  apply State.ext_held
  · rw [names_stateAfter closed, names_stateAfter closed]
  · intro d
    rw [held_stateAfter closed, held_stateAfter closed]
    exact iterate_inPlace_stable distinct constant d enough

theorem inPlace_passes_le_lookingAhead (equations : List Equation)
    (distinct : (targets equations).Nodup) (closed : Closed equations)
    (constant : ConstantSubtrahends equations) :
    ∃ result, solve .inPlace equations = .ok (some result) ∧
      result.iterations ≤ (lookingAhead equations).length + 1 ∧
        result.passes ≤ (lookingAhead equations).length + 2 := by
  have stable := stateAfter_inPlace_stable closed distinct constant
    (Nat.lt_succ_self (lookingAhead equations).length)
  obtain ⟨last, early, settles, _⟩ := exists_settlesAt_of_unchanged stable
  refine ⟨_, (solve_eq_some_iff closed .inPlace).mpr ⟨last, settles, rfl⟩, ?_, ?_⟩
  · exact max_le early (Nat.le_add_left 1 _)
  · exact Nat.succ_le_succ early

/-- Of the five references only the one to `L3` and the one to `L4` look ahead; `L1` also refers to
itself. -/
def detour : List Equation :=
  [⟨"L1", .union (.dataPoint "L3") (.dataPoint "L1")⟩,
    ⟨"L2", .body (.dataPoint "L1")⟩,
    ⟨"L3", .difference (.union (.dataPoint "L4") (.dataPoint "L2")) (.set [.definition "d2"])⟩,
    ⟨"L4", .set [.definition "d1", .definition "d2"]⟩]

theorem inPlace_passes_le_lookingAhead_detour :
    (targets detour).Nodup ∧ Closed detour ∧ ConstantSubtrahends detour ∧
      lookingAhead detour = ["L1", "L3"] ∧ ∃ result, solve .inPlace detour = .ok (some result) ∧
        result.iterations ≤ 3 ∧ result.passes ≤ 4 := by
  have distinct : (targets detour).Nodup := by decide
  have closed : Closed detour := by decide
  have constant : ConstantSubtrahends detour := by decide
  have ahead : lookingAhead detour = ["L1", "L3"] := by decide
  have bounded := inPlace_passes_le_lookingAhead detour distinct closed constant
  rw [ahead] at bounded
  exact ⟨distinct, closed, constant, ahead, bounded⟩

/-- The bound is reached. -/
example : (solve .inPlace detour).toOption.map (·.map fun result =>
    (result.iterations, result.passes)) = some (some (3, 4)) := by decide +kernel

end Reaching.Solver
