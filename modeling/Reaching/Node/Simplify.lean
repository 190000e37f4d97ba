import Reaching.Node.Basic
/-!
Removing the wrappers that carry no meaning. `simplify` replaces `root` and `body` by what they
wrap, in every place that it reaches: the items of an equation list, the right-hand side of an
equation and both sides of an operator. Set literals and the targets of equations are kept as they
are, with all that is inside them.
-/
set_option autoImplicit false

namespace Reaching.Node

mutual

def simplify : Node → Node
  | .root content => content.simplify
  | .body value => value.simplify
  | .equations items => .equations (simplifyAll items)
  | .equation target value => .equation target value.simplify
  | .union left right => .union left.simplify right.simplify
  | .difference left right => .difference left.simplify right.simplify
  | .set items => .set items
  | .dataPoint name => .dataPoint name
  | .definition name => .definition name

def simplifyAll : List Node → List Node
  | [] => []
  | item :: rest => item.simplify :: simplifyAll rest

end

end Reaching.Node
