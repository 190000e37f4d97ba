import Reaching.Json.Printer
import Reaching.Report.Listing
/-!
The outcome of a run as a JSON record: the counts of iterations and passes, the solution and, if any
were kept, the states after each pass. A state is an object whose members are the rows of its
listing.
-/
set_option autoImplicit false

namespace Reaching.Report

open Solver (State)
open Text (Overlong)

def Row.member (row : Row) : String × Json.Value :=
  (row.name, .strings row.points)

def stateValue? (state : State) : Except Overlong Json.Value := do
  return .object ((← rows? state).map Row.member)

def record? (iterations passes : Int) (solution : State) (snapshots : List State) :
    Except Overlong Json.Value := do
  let solution ← stateValue? solution
  let kept ← snapshots.mapM stateValue?
  let counts := [("iterations", .int iterations), ("passes", .int passes), ("solution", solution)]
  return .object (if kept.isEmpty then counts else counts ++ [("snapshots", .array kept)])

def recordText? (iterations passes : Int) (solution : State) (snapshots : List State) :
    Except Overlong String := do
  return (← record? iterations passes solution snapshots).print (.indented 2)

end Reaching.Report
