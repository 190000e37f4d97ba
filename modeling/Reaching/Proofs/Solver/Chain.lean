import Mathlib
import Reaching.Proofs.Node.Parts
import Reaching.Proofs.Solver.Undefined

/-! # Values of operator chains

Operators associate to the left, so a long expression is a tree whose left side is as deep as the
expression is long.  `walk` evaluates such a tree without going down its left side call by call: it
stacks the operators on the way to the operand at the far left end (`unroll`), evaluates that operand,
and applies the operators on the way back, each to its right side.  Only right sides, and the parts of
nodes that are no operators, are walked in their turn.

`combine` applies a stack of operators to a value.  It gives the same for a tree and for what is left
of it at any point of the way down (`combine_unroll`), and so the walk gives each tree its value
(`walk_eq_evaluate`).

`ByParts` says of a function that it gives each tree the value that its parts make up, and fails as the
first data point that is missing demands.  Main fact: `values_follow_parts`. -/
set_option autoImplicit false

namespace Reaching

namespace Node

def isName : Node → Bool
  | .dataPoint _ | .definition _ => true
  | _ => false

def isOperator : Node → Bool
  | .union _ _ | .difference _ _ => true
  | _ => false

end Node

namespace Solver

inductive Link where
  | adds (right : Node)
  | takes (right : Node)

namespace Link

def right : Link → Node
  | adds right => right
  | takes right => right

def apply : Link → PointSet → PointSet → PointSet
  | adds _, points, value => points ∪ value
  | takes _, points, value => points \ value

end Link

/-- Stacks the operators on the left side of a tree, the innermost on top, and gives the operand at its
end. -/
def unroll (stack : List Link) : Node → List Link × Node
  | .union left right => unroll (.adds right :: stack) left
  | .difference left right => unroll (.takes right :: stack) left
  | operand => (stack, operand)

noncomputable def stackSize (stack : List Link) : Nat :=
  (stack.map fun link => sizeOf link.right + 1).sum

theorem size_unroll (stack : List Link) (node : Node) :
    stackSize (unroll stack node).1 + sizeOf (unroll stack node).2 = stackSize stack + sizeOf node := by
  fun_induction unroll stack node with
  | case1 stack left right ih =>
      rw [ih, stackSize, List.map_cons, List.sum_cons, ← stackSize, Node.union.sizeOf_spec, Link.right]
      omega
  | case2 stack left right ih =>
      rw [ih, stackSize, List.map_cons, List.sum_cons, ← stackSize, Node.difference.sizeOf_spec,
        Link.right]
      omega
  | case3 => rfl

mutual

-- From a tree to its operand and from there to the parts of that the size may shrink by one only; the
-- measures leave room for both steps.
def walk (state : State) (node : Node) : Except Undefined PointSet := do
  let points ← walkOperand state (unroll [] node).2
  walkBack state (unroll [] node).1 points
termination_by 3 * sizeOf node + 2
decreasing_by
  all_goals
    have whole := size_unroll [] node
    simp only [stackSize, List.map_nil, List.sum_nil] at whole ⊢
    omega

def walkBack (state : State) : List Link → PointSet → Except Undefined PointSet
  | [], points => .ok points
  | link :: rest, points => do
    let value ← walk state link.right
    walkBack state rest (link.apply points value)
termination_by stack => 3 * stackSize stack
decreasing_by
  all_goals
    simp only [stackSize, List.map_cons, List.sum_cons]
    omega

def walkOperand (state : State) : Node → Except Undefined PointSet
  | .dataPoint name =>
    match state.get? name with
    | some points => .ok points
    | none => .error ⟨name⟩
  | .definition name => .ok (.singleton name)
  | node => walkParts state node.children ∅
termination_by node => 3 * sizeOf node + 1
decreasing_by
  have := node.sum_sizeOf_children_lt
  omega

def walkParts (state : State) : List Node → PointSet → Except Undefined PointSet
  | [], points => .ok points
  | part :: rest, points => do
    let value ← walk state part
    walkParts state rest (points ∪ value)
termination_by parts => 3 * (parts.map sizeOf).sum + 3
decreasing_by
  all_goals
    simp only [List.map_cons, List.sum_cons]
    have := part.sum_sizeOf_children_lt
    omega

end

/-! ## Nodes that are all that their parts are -/

theorem PointSet.empty_union (points : PointSet) : ∅ ∪ points = points := by
  apply PointSet.ext
  intro name
  rw [mem_union]
  exact or_iff_right (not_mem_empty name)

theorem PointSet.union_assoc (one two three : PointSet) :
    one ∪ two ∪ three = one ∪ (two ∪ three) := by
  apply PointSet.ext
  intro name
  simp only [mem_union, or_assoc]

variable {state : State}

theorem evaluate_eq_evaluateAll_children {node : Node} (other : node.isName = false)
    (group : node.isOperator = false) : evaluate state node = evaluateAll state node.children := by
  cases node with
  | dataPoint name => cases other
  | definition name => cases other
  | union left right => cases group
  | difference left right => cases group
  | set items => rfl
  | equations items => rfl
  | body value =>
      rw [evaluate, Node.children, evaluateAll]
      cases evaluate state value <;> rfl
  | root content =>
      rw [evaluate, Node.children, evaluateAll]
      cases evaluate state content <;> rfl
  | equation target value =>
      rw [evaluate, Node.children, evaluateAll, evaluateAll]
      cases evaluate state target with
      | error undefined => rfl
      | ok points => cases evaluate state value <;> rfl

/-! ## The way down and the way back -/

def combine (state : State) : List Link → Except Undefined PointSet → Except Undefined PointSet
  | [], value => value
  | link :: rest, value => combine state rest do
    let points ← value
    let other ← evaluate state link.right
    return link.apply points other

theorem combine_error (undefined : Undefined) :
    ∀ stack : List Link, combine state stack (.error undefined) = .error undefined
  | [] => rfl
  | _ :: rest => combine_error undefined rest

/-- On the way down, what is stacked and what is left have the value of the whole tree. -/
theorem combine_unroll (stack : List Link) (node : Node) :
    combine state (unroll stack node).1 (evaluate state (unroll stack node).2) =
      combine state stack (evaluate state node) := by
  fun_induction unroll stack node with
  | case1 stack left right ih =>
      rw [ih, combine, evaluate]
      rfl
  | case2 stack left right ih =>
      rw [ih, combine, evaluate]
      rfl
  | case3 => rfl

theorem isOperator_unroll (stack : List Link) (node : Node) :
    (unroll stack node).2.isOperator = false := by
  fun_induction unroll stack node with
  | case1 stack left right ih => exact ih
  | case2 stack left right ih => exact ih
  | case3 operand _ noUnion noDifference =>
      cases operand with
      | union left right => exact (noUnion left right rfl).elim
      | difference left right => exact (noDifference left right rfl).elim
      | _ => rfl

theorem walk_eq_evaluate (state : State) (node : Node) : walk state node = evaluate state node := by
  refine walk.induct state (fun node => walk state node = evaluate state node)
    (fun stack points => walkBack state stack points = combine state stack (.ok points))
    (fun node => node.isOperator = false → walkOperand state node = evaluate state node)
    (fun parts points => walkParts state parts points = (evaluateAll state parts).map (points ∪ ·))
    ?chain ?bottom ?link ?known ?missing ?definition ?group ?ended ?part node
  case chain =>
    intro node operand back
    rw [walk, operand (isOperator_unroll [] node)]
    change _ = combine state [] (evaluate state node)
    rw [← combine_unroll]
    cases evaluate state (unroll [] node).2 with
    | error undefined => exact (combine_error undefined _).symm
    | ok points => exact back points
  case bottom =>
    intro points
    rw [walkBack, combine]
  case link =>
    intro link rest points right back
    rw [walkBack, right, combine]
    cases evaluate state link.right with
    | error undefined => exact (combine_error undefined rest).symm
    | ok value => exact back value
  case known =>
    intro name points found _
    rw [walkOperand, evaluate, found]
  case missing =>
    intro name absent _
    rw [walkOperand, evaluate, absent]
  case definition =>
    intro name _
    rw [walkOperand, evaluate]
  case group =>
    intro node noPoint noDefinition parts noOperator
    have other : node.isName = false := by
      cases node with
      | dataPoint name => exact (noPoint name rfl).elim
      | definition name => exact (noDefinition name rfl).elim
      | _ => rfl
    rw [walkOperand, parts, evaluate_eq_evaluateAll_children other noOperator]
    · cases evaluateAll state node.children with
      | error undefined => rfl
      | ok points => exact congrArg Except.ok (PointSet.empty_union points)
    · exact noPoint
    · exact noDefinition
  case ended =>
    intro points
    rw [walkParts, evaluateAll]
    rfl
  case part =>
    intro part rest points first later
    rw [walkParts, first, evaluateAll]
    cases evaluate state part with
    | error undefined => rfl
    | ok value =>
        refine (later value).trans ?_
        cases evaluateAll state rest with
        | error undefined => rfl
        | ok more => exact congrArg Except.ok (PointSet.union_assoc points value more)

/-! ## Values by parts -/

def unions (values : List PointSet) : PointSet := values.foldr (· ∪ ·) ∅

theorem evaluateAll_eq_mapM (items : List Node) :
    evaluateAll state items = (items.mapM (evaluate state)).map unions := by
  induction items with
  | nil => rfl
  | cons item rest ih =>
      rw [evaluateAll, ih, List.mapM_cons]
      cases evaluate state item with
      | error undefined => rfl
      | ok points => cases rest.mapM (evaluate state) <;> rfl

/-- The value of a node is made of the values of its parts, and is undefined exactly if the tree has a
data point that the state lacks; the first such data point from the left is named. -/
structure ByParts (state : State) (value : Node → Except Undefined PointSet) : Prop where
  dataPoint : ∀ name points, value (.dataPoint name) = .ok points ↔ state.get? name = some points
  definition : ∀ name, value (.definition name) = .ok (.singleton name)
  union : ∀ left right, value (.union left right) = do return (← value left) ∪ (← value right)
  difference : ∀ left right, value (.difference left right) = do
    return (← value left) \ (← value right)
  group : ∀ node, node.isName = false → node.isOperator = false →
    value node = (node.children.mapM value).map unions
  undefined : ∀ node, (∃ e, value node = .error e) ↔
    ∃ name ∈ node.references, name ∉ state.names
  first : ∀ node e, value node = .error e ↔ ∃ before after,
    node.references = before ++ e.name :: after ∧ e.name ∉ state.names ∧
      ∀ name ∈ before, name ∈ state.names

theorem byParts_evaluate (state : State) : ByParts state (evaluate state) where
  dataPoint name points := by
    rw [evaluate]
    cases state.get? name <;> simp
  definition _ := rfl
  union _ _ := rfl
  difference _ _ := rfl
  group node other group := by
    rw [evaluate_eq_evaluateAll_children other group, evaluateAll_eq_mapM]
  undefined node := by
    constructor
    · rintro ⟨e, failed⟩
      have missing := evaluate_eq_error_iff.mp failed
      exact ⟨e.name, List.mem_of_find?_eq_some missing, by simpa using List.find?_some missing⟩
    · rintro ⟨name, reference, absent⟩
      cases missing : firstMissing state.names node.references with
      | none => exact absurd (firstMissing_eq_none_iff.mp missing name reference) absent
      | some other => exact ⟨⟨other⟩, evaluate_eq_error_iff.mpr missing⟩
  first node e := by
    rw [evaluate_eq_error_iff, firstMissing, List.find?_eq_some_iff_append]
    constructor
    · rintro ⟨absent, before, after, split, known⟩
      exact ⟨before, after, split, of_decide_eq_true absent, by simpa using known⟩
    · rintro ⟨before, after, split, absent, known⟩
      exact ⟨decide_eq_true absent, before, after, split, by simpa using known⟩

/-- Walking along the chains gives the values that the parts of a tree make up, for every tree. -/
theorem values_follow_parts (state : State) :
    ByParts state (evaluate state) ∧ ∀ node, walk state node = evaluate state node :=
  ⟨byParts_evaluate state, walk_eq_evaluate state⟩

end Solver

end Reaching
