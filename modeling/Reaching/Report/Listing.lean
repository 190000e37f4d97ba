import Reaching.Report.NameOrder
import Reaching.Solver.State
/-!
Listings of a state: one row for each data point, in name order, with its points in name order. The
text of a listing has a line `L<n>: {d<a>, d<b>}` for each row.
-/
set_option autoImplicit false

namespace Reaching.Report

open Solver (State)
open Text (Overlong)

structure Row where
  name : String
  points : List String
  deriving DecidableEq, Repr

def row? (state : State) (name : String) : Except Overlong Row := do
  let points ← sortedNames? ((state.get? name).getD ∅).names
  return ⟨name, points⟩

def rows? (state : State) : Except Overlong (List Row) := do
  let names ← sortedNames? state.names
  names.mapM (row? state)

def Row.line (row : Row) : String :=
  row.name ++ ": \x7b" ++ ", ".intercalate row.points ++ "\x7d"

def listing (rows : List Row) : String :=
  "\n".intercalate (rows.map Row.line)

/-- Shows a state as a listing. -/
def solutionText? (state : State) : Except Overlong String := do
  return listing (← rows? state)

/-- Shows the state after a pass under the number of the pass. -/
def iterationText? (number : Int) (state : State) : Except Overlong String := do
  return "Iteration " ++ toString number ++ "\n" ++ (← solutionText? state)

end Reaching.Report
