import Reaching.Node.Simplify
import Reaching.Solver.State
/-!
The equations of a tree. A root is simplified first; a list gives its equations in order and an
equation is a system of its own. No other tree holds a system.

`seed` gives every target the empty set, and `repeated` names each target that an earlier equation
has too.
-/
set_option autoImplicit false

namespace Reaching.Solver

structure Equation where
  target : String
  value : Node
  deriving Repr, Inhabited

/-- Tells which tree was given in place of equations. -/
structure NoSystem where
  found : Node
  deriving Repr

def NoSystem.nodeName : Node → String
  | .set _ => "SetLiteral"
  | .union _ _ => "UnionOp"
  | node => node.kind

def NoSystem.message (e : NoSystem) : String :=
  "Expected an equation tree, got " ++ nodeName e.found

namespace Equation

def ofNode? : Node → Except NoSystem Equation
  | .equation (.dataPoint name) value => .ok ⟨name, value⟩
  | .equation (.definition name) value => .ok ⟨name, value⟩
  | node => .error ⟨node⟩

def listOfNode? : Node → Except NoSystem (List Equation)
  | .equations items => items.mapM ofNode?
  | node => do return [← ofNode? node]

end Equation

/-- Gives the equations of a tree in order. -/
def equationsOf? : Node → Except NoSystem (List Equation)
  | .root content => Equation.listOfNode? content.simplify
  | node => Equation.listOfNode? node

def seed (equations : List Equation) : State :=
  equations.foldl (fun state equation => state.put equation.target ∅) ∅

def repeated (equations : List Equation) : List String :=
  go [] equations
where
  go (earlier : List String) : List Equation → List String
    | [] => []
    | equation :: rest =>
      if equation.target ∈ earlier then equation.target :: go earlier rest
      else go (equation.target :: earlier) rest

def repeatedWarning (name : String) : String :=
  "Data point " ++ name ++ " is defined more than once; the last equation wins"

end Reaching.Solver
