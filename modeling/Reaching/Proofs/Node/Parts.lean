import Mathlib
import Reaching.Node.Basic

/-! # The parts of a node

A walk over a tree without calls keeps a stack of what is still to be visited.  It puts the parts of a
node on the stack from the last to the first (`pushAll`), so that they come off in their order, and it
ends because the parts are smaller together than the node (`sum_sizeOf_children_lt`). -/
set_option autoImplicit false

namespace Reaching.Node

/-- Puts items on a stack one after the other, the last item first. -/
def pushAll {α : Type} (items stack : List α) : List α :=
  items.reverse.reverseAux stack

theorem pushAll_eq_append {α : Type} (items stack : List α) : pushAll items stack = items ++ stack := by
  rw [pushAll, List.reverseAux_eq, List.reverse_reverse]

theorem sizeOf_pos (node : Node) : 0 < sizeOf node := by
  cases node <;> simp +arith

theorem sum_sizeOf_le (items : List Node) : (items.map sizeOf).sum ≤ sizeOf items := by
  induction items with
  | nil => simp
  | cons item rest ih =>
      rw [List.map_cons, List.sum_cons, List.cons.sizeOf_spec]
      omega

theorem sum_sizeOf_children_lt (node : Node) : (node.children.map sizeOf).sum < sizeOf node := by
  cases node with
  | set items | equations items =>
      have := sum_sizeOf_le items
      simp only [children, set.sizeOf_spec, equations.sizeOf_spec]
      omega
  | _ => simp +arith [children]

end Reaching.Node
