import Reaching.Source.Token
import Reaching.Node.Basic
/-!
Equation documents as they are written: a list of equations `L<n> = operand op operand …`, in which
an operand is a data point or a set of definitions and only a set stands after a difference. Both
operators associate to the left, so an expression is a chain with an operand at its far left end.

Every name keeps the place where it was written. `Document.toNode` is the tree of a document and
`Document.leaves` its names from left to right, as the tokens they were read from.
-/
set_option autoImplicit false

namespace Reaching.Source

structure Name where
  text : String
  place : Text.Position
  deriving DecidableEq, Repr, Inhabited

namespace Name

def ofToken (token : Token) : Name := ⟨token.lexeme, token.place⟩

def dataPoint (name : Name) : Token := ⟨.dataPoint, name.text, name.place⟩

def definition (name : Name) : Token := ⟨.definition, name.text, name.place⟩

end Name

/-- The definitions between the braces of a set. -/
abbrev SetLiteral := List Name

namespace SetLiteral

def toNode (set : SetLiteral) : Node :=
  .set (set.map fun name => .definition name.text)

def leaves (set : SetLiteral) : List Token :=
  set.map Name.definition

end SetLiteral

inductive Operand where
  | point (name : Name)
  | set (items : SetLiteral)
  deriving DecidableEq, Repr, Inhabited

namespace Operand

def toNode : Operand → Node
  | point name => .dataPoint name.text
  | set items => items.toNode

def leaves : Operand → List Token
  | point name => [name.dataPoint]
  | set items => items.leaves

end Operand

inductive Expr where
  | operand (first : Operand)
  | union (left : Expr) (right : Operand)
  | difference (left : Expr) (right : SetLiteral)
  deriving DecidableEq, Repr, Inhabited

namespace Expr

def toNode : Expr → Node
  | operand first => first.toNode
  | union left right => .union left.toNode right.toNode
  | difference left right => .difference left.toNode right.toNode

def leaves : Expr → List Token
  | operand first => first.leaves
  | union left right => left.leaves ++ right.leaves
  | difference left right => left.leaves ++ right.leaves

end Expr

structure Equation where
  target : Name
  value : Expr
  deriving DecidableEq, Repr, Inhabited

namespace Equation

def toNode (equation : Equation) : Node :=
  .equation (.dataPoint equation.target.text) (.body equation.value.toNode)

def leaves (equation : Equation) : List Token :=
  equation.target.dataPoint :: equation.value.leaves

end Equation

abbrev Document := List Equation

namespace Document

def toNode (document : Document) : Node :=
  .root (.equations (document.map Equation.toNode))

def leaves (document : Document) : List Token :=
  document.flatMap Equation.leaves

end Document

end Reaching.Source
