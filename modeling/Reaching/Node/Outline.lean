import Reaching.Node.Basic
/-!
Trees shown one node per line. `entries` walks a tree from a node to its parts, each part before
the next, and gives every node with its depth. `Node.outline` writes one line for each entry: a
margin of `indent` blanks for each level, none if `indent` is negative, then the kind of the node
and, for a leaf, its name.
-/
set_option autoImplicit false

namespace Reaching.Node

namespace Outline

mutual

def entries (depth : Nat) (node : Node) : List (Nat × Node) :=
  (depth, node) :: match node with
    | .dataPoint _ => []
    | .definition _ => []
    | .set items => entriesOf (depth + 1) items
    | .union left right => entries (depth + 1) left ++ entries (depth + 1) right
    | .difference left right => entries (depth + 1) left ++ entries (depth + 1) right
    | .body value => entries (depth + 1) value
    | .equation target value => entries (depth + 1) target ++ entries (depth + 1) value
    | .equations items => entriesOf (depth + 1) items
    | .root content => entries (depth + 1) content

def entriesOf (depth : Nat) : List Node → List (Nat × Node)
  | [] => []
  | item :: rest => entries depth item ++ entriesOf depth rest

end

def label : Node → String
  | .dataPoint name => "DataPointRef " ++ name
  | .definition name => "Definition " ++ name
  | node => node.kind

def margin (indent : Int) (depth : Nat) : String :=
  String.ofList (List.replicate (depth * indent).toNat ' ')

def line (indent : Int) (entry : Nat × Node) : String :=
  margin indent entry.1 ++ label entry.2

end Outline

def outline (indent : Int) (node : Node) : String :=
  "\n".intercalate ((Outline.entries 0 node).map (Outline.line indent))

end Reaching.Node
