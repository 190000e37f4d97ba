import Reaching.Solver.Equation
import Reaching.Solver.Evaluate
/-!
Solving a system by repeated passes.

A pass evaluates the equations in order and stores each value to its target. Under `inPlace` an
equation reads what the earlier equations of the pass have stored; under `jacobi` every equation
reads the state at the start of the pass. `iterate` makes passes until one changes nothing, and
makes no more than its budget. A system has only finitely many states, so `solve` needs no budget of
its caller: one that has not settled after as many passes as there are states goes round for ever.
-/
set_option autoImplicit false

namespace Reaching.Solver

inductive Scheme where
  | inPlace
  | jacobi
  deriving DecidableEq, Repr, Inhabited

structure UnknownScheme where
  name : String
  deriving DecidableEq, Repr

namespace Scheme

def all : List Scheme := [inPlace, jacobi]

def name : Scheme → String
  | inPlace => "in_place"
  | jacobi => "jacobi"

def ofName? (name : String) : Except UnknownScheme Scheme :=
  match all.find? (·.name = name) with
  | some scheme => .ok scheme
  | none => .error ⟨name⟩

/-- Chooses what an equation reads: what there was at the start of the pass or what there is so
far. -/
def view {α : Type} (scheme : Scheme) (start soFar : α) : α :=
  match scheme with
  | inPlace => soFar
  | jacobi => start

end Scheme

def UnknownScheme.message (e : UnknownScheme) : String :=
  "Unknown iteration scheme: " ++ e.name ++ " (expected one of " ++
    ", ".intercalate (Scheme.all.map Scheme.name) ++ ")"

/-- Evaluates equations in order, storing each value, in a pass that began at `start`. -/
def stores (scheme : Scheme) (start : State) : List Equation → State → Except Undefined State
  | [], soFar => .ok soFar
  | equation :: rest, soFar => do
    let points ← evaluate (scheme.view start soFar) equation.value
    stores scheme start rest (soFar.put equation.target points)

def pass (scheme : Scheme) (equations : List Equation) (start : State) : Except Undefined State :=
  stores scheme start equations start

/-- The states after each pass, in order, and whether the last pass changed nothing. -/
structure Run where
  states : List State
  settled : Bool
  deriving DecidableEq

/-- Makes passes from a state until one changes nothing or the budget is spent. -/
def iterate (scheme : Scheme) (equations : List Equation) : Nat → State → Except Undefined Run
  | 0, _ => .ok ⟨[], false⟩
  | budget + 1, state => do
    let next ← pass scheme equations state
    if next = state then return ⟨[next], true⟩
    else
      let run ← iterate scheme equations budget next
      return ⟨next :: run.states, run.settled⟩

/-- The outcome of a run that settled. The last pass only confirms, so it is no iteration unless it
is the first. -/
structure Result where
  iterations : Nat
  passes : Nat
  solution : State
  snapshots : List State
  deriving DecidableEq

def Run.result (start : State) (run : Run) : Result :=
  ⟨max (run.states.length - 1) 1, run.states.length, run.states.getLastD start, run.states⟩

mutual

/-- Lists the definitions of a tree from left to right. -/
def definitionsIn : Node → List String
  | .dataPoint _ => []
  | .definition name => [name]
  | .union left right => definitionsIn left ++ definitionsIn right
  | .difference left right => definitionsIn left ++ definitionsIn right
  | .set items => definitionsInAll items
  | .body value => definitionsIn value
  | .equation target value => definitionsIn target ++ definitionsIn value
  | .equations items => definitionsInAll items
  | .root content => definitionsIn content

def definitionsInAll : List Node → List String
  | [] => []
  | item :: rest => definitionsIn item ++ definitionsInAll rest

end

/-- Counts the states whose names are the targets and whose sets hold definitions that occur: each
of the definitions is in the set of each target or is not. -/
def stateCount (equations : List Equation) : Nat :=
  let points := (seed equations).entries.length
  let definitions := (PointSet.ofList (equations.flatMap (definitionsIn ·.value))).names.length
  Nat.pow 2 (points * definitions)

/-- Solves a system; there is no result if its passes never settle. -/
def solve (scheme : Scheme) (equations : List Equation) : Except Undefined (Option Result) := do
  let run ← iterate scheme equations (stateCount equations) (seed equations)
  return if run.settled then some (run.result (seed equations)) else none

end Reaching.Solver
