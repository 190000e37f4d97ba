import Reaching.Solver.State
import Reaching.Node.Basic
/-!
The value of an expression in a state. A data point has the set that the state holds for it, a
definition stands for itself, and the two operators are union and difference. Every other node, a
set literal or a wrapper, is the union of its parts. Parts are evaluated from left to right, so the
first data point that the state lacks is the one reported.
-/
set_option autoImplicit false

namespace Reaching.Solver

structure Undefined where
  name : String
  deriving DecidableEq, Repr

def Undefined.message (e : Undefined) : String :=
  "Undefined data point: " ++ e.name

mutual

def evaluate (state : State) : Node → Except Undefined PointSet
  | .dataPoint name =>
    match state.get? name with
    | some points => .ok points
    | none => .error ⟨name⟩
  | .definition name => .ok (.singleton name)
  | .union left right => do
    let points ← evaluate state left
    let added ← evaluate state right
    return points ∪ added
  | .difference left right => do
    let points ← evaluate state left
    let removed ← evaluate state right
    return points \ removed
  | .set items => evaluateAll state items
  | .body value => evaluate state value
  | .equation target value => do
    let points ← evaluate state target
    let added ← evaluate state value
    return points ∪ added
  | .equations items => evaluateAll state items
  | .root content => evaluate state content

def evaluateAll (state : State) : List Node → Except Undefined PointSet
  | [] => .ok ∅
  | item :: rest => do
    let points ← evaluate state item
    let added ← evaluateAll state rest
    return points ∪ added

end

end Reaching.Solver
