import Reaching.Proofs.Document.System
import Reaching.Proofs.Solver.Convergence

/-! # Every closed document settles

`SettlesWithin` says of a system that its passes come to an end: every budget above a bound gives
the same run, that run ends with a pass that changes nothing, it makes at most one pass more than
the bound and needs no more iterations than it, and it is the run that `solve` reports.

Main fact: `settles_within_targets` (a document whose references are all targets settles under
both schemes, within the number of its distinct targets). -/
set_option autoImplicit false

namespace Reaching.Source

open Solver (Scheme Run Closed targets iterate seed solve)

structure SettlesWithin (scheme : Scheme) (equations : List Solver.Equation) (bound : Nat)
    (run : Run) : Prop where
  settled : run.settled = true
  unlimited : ∀ budget, bound < budget → iterate scheme equations budget (seed equations) = .ok run
  solved : solve scheme equations = .ok (some (run.result (seed equations)))
  passes : (run.result (seed equations)).passes ≤ bound + 1
  iterations : (run.result (seed equations)).iterations ≤ bound

theorem card_targets_pos {document : Document} (some : document ≠ []) :
    1 ≤ (targets document.system).toFinset.card := by
  obtain ⟨first, rest, rfl⟩ := List.exists_cons_of_ne_nil some
  apply Finset.card_pos.mpr
  exact ⟨first.target.text, by simp [targets_system]⟩

theorem settles_within_targets (dialect : Dialect) (text : String) (document : Document)
    (read : Document.ofText? dialect text = .ok document) (closed : Closed document.system)
    (scheme : Scheme) :
    Solver.equationsOf? document.toNode = .ok document.system ∧
      ∃ run, SettlesWithin scheme document.system
        (document.map fun equation => equation.target.text).toFinset.card run := by
  refine ⟨equationsOf?_toNode document, ?_⟩
  rw [← targets_system]
  have constant := constantSubtrahends_system document
  obtain ⟨last, within, settles⟩ := Solver.exists_settlesAt closed constant scheme
  have enough := Solver.settling_lt_stateCount closed constant settles within
  have result := Solver.result_settledRun scheme document.system settles
  refine ⟨Solver.settledRun scheme document.system last, rfl, ?_, ?_, ?_, ?_⟩
  · intro budget above
    exact Solver.iterate_of_settlesAt closed scheme settles (Nat.lt_of_le_of_lt within above)
  · rw [result]
    exact Solver.solve_of_settlesAt closed scheme settles enough
  · rw [result]
    exact Nat.succ_le_succ within
  · rw [result]
    exact max_le within (card_targets_pos (ne_nil_of_ofText? read))

def crossing : Document :=
  [⟨⟨"L1", ⟨1, 1⟩⟩, .union (.difference (.operand (.point ⟨"L2", ⟨1, 6⟩⟩)) [⟨"d2", ⟨1, 12⟩⟩])
      (.set [⟨"d1", ⟨1, 19⟩⟩])⟩,
    ⟨⟨"L2", ⟨2, 1⟩⟩, .union (.operand (.point ⟨"L1", ⟨2, 6⟩⟩)) (.set [⟨"d2", ⟨2, 12⟩⟩])⟩,
    ⟨⟨"L1", ⟨3, 1⟩⟩, .union (.operand (.point ⟨"L1", ⟨3, 6⟩⟩)) (.point ⟨"L2", ⟨3, 11⟩⟩)⟩]

theorem settles_within_targets_crossing :
    Document.ofText? ⟨true, false⟩ "L1 = L2 \\ {d2} U {d1}\nL2 = L1 U {d2}\nL1 = L1 U L2" =
        .ok crossing ∧
      Closed crossing.system ∧ ∃ run, SettlesWithin .jacobi crossing.system 2 run := by
  have read : Document.ofText? ⟨true, false⟩
      "L1 = L2 \\ {d2} U {d1}\nL2 = L1 U {d2}\nL1 = L1 U L2" = .ok crossing := by decide +kernel
  have closed : Closed crossing.system := by decide
  exact ⟨read, closed, (settles_within_targets _ _ crossing read closed .jacobi).2⟩

end Reaching.Source
