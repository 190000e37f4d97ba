/-!
Equation trees. A tree is made of the nodes of an equation document, in any arrangement: a document
that has been read gives a `root` over a list of equations whose right-hand sides are wrapped in
`body`, but a tree may also hold wrappers, equations or whole lists in any place.

`Node.children` lists the direct parts of a node from left to right.
-/
set_option autoImplicit false

namespace Reaching

inductive Node where
  | dataPoint (name : String)
  | definition (name : String)
  | set (items : List Node)
  | union (left right : Node)
  | difference (left right : Node)
  | body (value : Node)
  | equation (target value : Node)
  | equations (items : List Node)
  | root (content : Node)
  deriving Repr, Inhabited

namespace Node

def children : Node → List Node
  | dataPoint _ => []
  | definition _ => []
  | set items => items
  | union left right => [left, right]
  | difference left right => [left, right]
  | body value => [value]
  | equation target value => [target, value]
  | equations items => items
  | root content => [content]

/-- Names the kind of a node. -/
def kind : Node → String
  | dataPoint _ => "DataPointRef"
  | definition _ => "Definition"
  | set _ => "Set"
  | union _ _ => "Union"
  | difference _ _ => "SetDifference"
  | body _ => "Body"
  | equation _ _ => "Equation"
  | equations _ => "EquationList"
  | root _ => "Root"

end Node

end Reaching
