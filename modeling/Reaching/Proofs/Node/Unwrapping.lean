import Reaching.Node.Simplify
import Reaching.Proofs.Node.Parts

/-! # Trees without their wrappers

`unwrap` simplifies a tree without calls.  It keeps a stack of what is still to be done and a row of
results: a wrapper is replaced by what it wraps, a node that is kept becomes a result at once, and one
that is rebuilt waits on the stack below its parts and then takes its part of the results from the end
of the row.  Whatever waits and whatever results there are, a node that is visited adds its
simplification to the row and nothing else (`adds_simplify`).

Simplification keeps the items of sets and the targets of equations, so `Exposed` follows a tree into
all other parts.  A tree is `Bare` if no wrapper is exposed in it: simplification makes it so and
changes no tree that is so already.

Main fact: `simplify_unwraps`. -/
set_option autoImplicit false

namespace Reaching.Node

/-! ## The walk -/

def wrapped? : Node → Option Node
  | .root content => some content
  | .body value => some value
  | _ => none

def rebuilt? : Node → Option (List Node)
  | .equations items => some items
  | .equation _ value => some [value]
  | .union left right => some [left, right]
  | .difference left right => some [left, right]
  | _ => none

def rebuild? (results : List Node) : Node → Option Node
  | .equations _ => some (.equations results)
  | .equation target _ => do return .equation target (← results[0]?)
  | .union _ _ => do return .union (← results[0]?) (← results[1]?)
  | .difference _ _ => do return .difference (← results[0]?) (← results[1]?)
  | _ => none

def splitLast? (count : Nat) (results : List Node) : Option (List Node × List Node) :=
  if count ≤ results.length then some (results.splitAt (results.length - count)) else none

theorem splitLast?_append (before own : List Node) :
    splitLast? own.length (before ++ own) = some (before, own) := by
  rw [splitLast?, List.length_append, if_pos (Nat.le_add_left _ _), Nat.add_sub_cancel,
    List.splitAt_eq, List.take_left, List.drop_left]

/-- A node that is to be visited or, once its parts have been, to be rebuilt. -/
structure Task where
  node : Node
  expanded : Bool

namespace Task

def visit (node : Node) : Task := ⟨node, false⟩

noncomputable def weight (task : Task) : Nat :=
  if task.expanded ∧ task.node.rebuilt?.isSome then 1 else 2 * sizeOf task.node

theorem weight_visit (node : Node) : (visit node).weight = 2 * sizeOf node := rfl

theorem weight_of_kept {node : Node} (kept : node.rebuilt? = none) (expanded : Bool) :
    weight ⟨node, expanded⟩ = 2 * sizeOf node := by
  simp [weight, kept]

theorem weight_pos (task : Task) : 0 < task.weight := by
  have := sizeOf_pos task.node
  rw [weight]
  split <;> omega

end Task

theorem rebuilt?_of_wrapped? {node inner : Node} (found : node.wrapped? = some inner) :
    node.rebuilt? = none := by
  cases node with
  | root content => rfl
  | body value => rfl
  | _ => cases found

theorem sizeOf_lt_of_wrapped? {node inner : Node} (found : node.wrapped? = some inner) :
    sizeOf inner < sizeOf node := by
  cases node with
  | root content =>
      cases found
      simp
  | body value =>
      cases found
      simp
  | _ => cases found

theorem sum_sizeOf_lt_of_rebuilt? {node : Node} {parts : List Node}
    (found : node.rebuilt? = some parts) : (parts.map sizeOf).sum < sizeOf node := by
  cases node with
  | equations items =>
      cases found
      exact sum_sizeOf_children_lt (.equations parts)
  | equation target value =>
      cases found
      simp +arith
  | union left right =>
      cases found
      exact sum_sizeOf_children_lt (.union left right)
  | difference left right =>
      cases found
      exact sum_sizeOf_children_lt (.difference left right)
  | _ => cases found

noncomputable def workSize (work : List Task) : Nat := (work.map Task.weight).sum

theorem workSize_cons (task : Task) (work : List Task) :
    workSize (task :: work) = task.weight + workSize work := by
  rw [workSize, List.map_cons, List.sum_cons, workSize]

theorem workSize_visits (parts : List Node) (work : List Task) :
    workSize (parts.map Task.visit ++ work) = 2 * (parts.map sizeOf).sum + workSize work := by
  induction parts with
  | nil => simp
  | cons part rest ih =>
      rw [List.map_cons, List.cons_append, workSize_cons, ih, Task.weight_visit, List.map_cons,
        List.sum_cons]
      omega

-- A node that waits for its parts counts for one, and before it is expanded for twice its size: that
-- leaves room for its parts and for itself.
def unwrap : List Task → List Node → Option Node
  | [], results => results.head?
  | ⟨node, expanded⟩ :: work, results =>
    match _inside : node.wrapped? with
    | some inner => unwrap (.visit inner :: work) results
    | none =>
      match _found : node.rebuilt? with
      | none => unwrap work (results ++ [node])
      | some parts =>
        if expanded then do
          let (before, own) ← splitLast? parts.length results
          let built ← node.rebuild? own
          unwrap work (before ++ [built])
        else unwrap (pushAll (parts.map .visit) (⟨node, true⟩ :: work)) results
termination_by work => workSize work
decreasing_by
  all_goals rw [workSize_cons ⟨node, expanded⟩]
  · have := sizeOf_lt_of_wrapped? ‹node.wrapped? = some inner›
    rw [workSize_cons, Task.weight_visit, Task.weight_of_kept (rebuilt?_of_wrapped? ‹_›)]
    omega
  · exact Nat.lt_add_of_pos_left (Task.weight_pos _)
  · exact Nat.lt_add_of_pos_left (Task.weight_pos _)
  · have found : node.rebuilt? = some parts := ‹_›
    have := sum_sizeOf_lt_of_rebuilt? found
    have unexpanded : Task.weight ⟨node, expanded⟩ = 2 * sizeOf node := by simp [Task.weight, *]
    have waiting : Task.weight ⟨node, true⟩ = 1 := by simp [Task.weight, found]
    rw [pushAll_eq_append, workSize_visits, workSize_cons, unexpanded, waiting]
    omega

/-! ## What the walk gives -/

section Walk

variable {node : Node} {work : List Task} {results : List Node}

theorem unwrap_wrapped {inner : Node} (inside : node.wrapped? = some inner) :
    unwrap (.visit node :: work) results = unwrap (.visit inner :: work) results := by
  rw [Task.visit, unwrap]
  split
  · rename_i other found
    obtain rfl : inner = other := Option.some.inj (inside.symm.trans found)
    rfl
  · rename_i none
    cases inside.symm.trans none

theorem wrapped?_of_rebuilt? {parts : List Node} (found : node.rebuilt? = some parts) :
    node.wrapped? = none := by
  cases inside : node.wrapped? with
  | none => rfl
  | some inner => cases found.symm.trans (rebuilt?_of_wrapped? inside)

theorem unwrap_task (bare : node.wrapped? = none) {parts : List Node}
    (found : node.rebuilt? = some parts) (expanded : Bool) :
    unwrap (⟨node, expanded⟩ :: work) results =
      if expanded then do
        let (before, own) ← splitLast? parts.length results
        let built ← node.rebuild? own
        unwrap work (before ++ [built])
      else unwrap (pushAll (parts.map .visit) (⟨node, true⟩ :: work)) results := by
  rw [unwrap]
  split
  · rename_i inside
    cases bare.symm.trans inside
  · split
    · rename_i none
      cases found.symm.trans none
    · rename_i others again
      obtain rfl : parts = others := Option.some.inj (found.symm.trans again)
      rfl

theorem unwrap_kept (bare : node.wrapped? = none) (kept : node.rebuilt? = none) :
    unwrap (.visit node :: work) results = unwrap work (results ++ [node]) := by
  rw [Task.visit, unwrap]
  split
  · rename_i inside
    cases bare.symm.trans inside
  · split
    · rfl
    · rename_i found
      cases kept.symm.trans found

/-- To visit the parts, whatever waits below them, is to add the outcome to the results. -/
def Adds (parts outcome : List Node) : Prop := ∀ work results,
  unwrap (parts.map .visit ++ work) results = unwrap work (results ++ outcome)

theorem Adds.nil : Adds [] [] := fun work results => by
  rw [List.map_nil, List.nil_append, List.append_nil]

theorem Adds.cons {first : Node} {parts outcome : List Node} {result : Node}
    (head : Adds [first] [result]) (tail : Adds parts outcome) :
    Adds (first :: parts) (result :: outcome) := by
  intro work results
  have visited := head (parts.map .visit ++ work) results
  rw [List.map_cons, List.cons_append]
  refine visited.trans ?_
  rw [tail, List.append_assoc]
  rfl

/-- A node takes from the end of the row what its parts have added to it. -/
theorem Adds.rebuilt {parts outcome : List Node} {built : Node}
    (found : node.rebuilt? = some parts) (adds : Adds parts outcome)
    (same : outcome.length = parts.length) (again : node.rebuild? outcome = some built) :
    Adds [node] [built] := by
  intro work results
  have bare := wrapped?_of_rebuilt? found
  calc unwrap (.visit node :: work) results
    _ = unwrap (parts.map .visit ++ ⟨node, true⟩ :: work) results := by
      rw [Task.visit, unwrap_task bare found, if_neg Bool.false_ne_true, pushAll_eq_append]
    _ = unwrap (⟨node, true⟩ :: work) (results ++ outcome) := adds _ _
    _ = unwrap work (results ++ [built]) := by
      rw [unwrap_task bare found, if_pos rfl, ← same, splitLast?_append]
      change (node.rebuild? outcome).bind _ = _
      rw [again]
      rfl

theorem simplifyAll_eq_map (items : List Node) : simplifyAll items = items.map simplify := by
  induction items with
  | nil => rfl
  | cons item rest ih => rw [simplifyAll, ih, List.map_cons]

mutual

theorem adds_simplify : ∀ node : Node, Adds [node] [node.simplify]
  | .root inner | .body inner => fun work results => by
      rw [simplify]
      exact (unwrap_wrapped rfl).trans (adds_simplify inner work results)
  | .equations items => by
      rw [simplify]
      refine .rebuilt rfl (adds_simplifyAll items) ?_ rfl
      rw [simplifyAll_eq_map, List.length_map]
  | .equation target value => by
      rw [simplify]
      exact .rebuilt rfl (adds_simplify value) rfl rfl
  | .union left right | .difference left right => by
      rw [simplify]
      exact .rebuilt rfl ((adds_simplify left).cons (adds_simplify right)) rfl rfl
  | .set _ | .dataPoint _ | .definition _ => fun _ _ => unwrap_kept rfl rfl

theorem adds_simplifyAll : ∀ items : List Node, Adds items (simplifyAll items)
  | [] => .nil
  | item :: rest => (adds_simplify item).cons (adds_simplifyAll rest)

end

theorem unwrap_visit (node : Node) : unwrap [.visit node] [] = some node.simplify := by
  refine (adds_simplify node [] []).trans ?_
  rw [unwrap]
  rfl

end Walk

/-! ## The rewrite -/

/-- Wrappers are replaced by what they wrap, lists, operators and equations are built again from their
parts, an equation with the target that it has, and all other nodes are kept. -/
structure Unwraps (rewrite : Node → Node) : Prop where
  root : ∀ content, rewrite (.root content) = rewrite content
  body : ∀ value, rewrite (.body value) = rewrite value
  equations : ∀ items, rewrite (.equations items) = .equations (items.map rewrite)
  equation : ∀ target value, rewrite (.equation target value) = .equation target (rewrite value)
  union : ∀ left right, rewrite (.union left right) = .union (rewrite left) (rewrite right)
  difference : ∀ left right,
    rewrite (.difference left right) = .difference (rewrite left) (rewrite right)
  set : ∀ items, rewrite (.set items) = .set items
  dataPoint : ∀ name, rewrite (.dataPoint name) = .dataPoint name
  definition : ∀ name, rewrite (.definition name) = .definition name

theorem unwraps_simplify : Unwraps simplify where
  root _ := by rw [simplify]
  body _ := by rw [simplify]
  equations items := by rw [simplify, simplifyAll_eq_map]
  equation _ _ := by rw [simplify]
  union _ _ := by rw [simplify]
  difference _ _ := by rw [simplify]
  set _ := by rw [simplify]
  dataPoint _ := by rw [simplify]
  definition _ := by rw [simplify]

mutual

theorem Unwraps.apply_eq {rewrite : Node → Node} (unwraps : Unwraps rewrite) :
    ∀ node : Node, rewrite node = node.simplify
  | .root content => by rw [unwraps.root, simplify, unwraps.apply_eq content]
  | .body value => by rw [unwraps.body, simplify, unwraps.apply_eq value]
  | .equations items => by rw [unwraps.equations, simplify, unwraps.map_eq items]
  | .equation target value => by rw [unwraps.equation, simplify, unwraps.apply_eq value]
  | .union left right => by
      rw [unwraps.union, simplify, unwraps.apply_eq left, unwraps.apply_eq right]
  | .difference left right => by
      rw [unwraps.difference, simplify, unwraps.apply_eq left, unwraps.apply_eq right]
  | .set items => by rw [unwraps.set, simplify]
  | .dataPoint name => by rw [unwraps.dataPoint, simplify]
  | .definition name => by rw [unwraps.definition, simplify]

theorem Unwraps.map_eq {rewrite : Node → Node} (unwraps : Unwraps rewrite) :
    ∀ items : List Node, items.map rewrite = simplifyAll items
  | [] => rfl
  | item :: rest => by
      rw [List.map_cons, simplifyAll, unwraps.apply_eq item, unwraps.map_eq rest]

end

theorem unwraps_iff {rewrite : Node → Node} : Unwraps rewrite ↔ rewrite = simplify :=
  ⟨fun unwraps => funext unwraps.apply_eq, fun same => same ▸ unwraps_simplify⟩

/-! ## Bare trees -/

def isWrapper : Node → Bool
  | .root _ | .body _ => true
  | _ => false

def openParts : Node → List Node
  | .set _ => []
  | .equation _ value => [value]
  | node => node.children

/-- A part that is reached without going into a set or the target of an equation. -/
inductive Exposed : Node → Node → Prop where
  | self (node : Node) : Exposed node node
  | inside {node part other : Node} (among : part ∈ node.openParts) (exposed : Exposed part other) :
      Exposed node other

def Bare (node : Node) : Prop := ∀ part, Exposed node part → part.isWrapper = false

theorem bare_iff {node : Node} :
    Bare node ↔ node.isWrapper = false ∧ ∀ part ∈ node.openParts, Bare part := by
  constructor
  · intro bare
    exact ⟨bare node (.self node), fun part among other exposed => bare other (.inside among exposed)⟩
  · rintro ⟨plain, parts⟩ other exposed
    cases exposed with
    | self => exact plain
    | inside among deeper => exact parts _ among other deeper

mutual

theorem bare_simplify : ∀ node : Node, Bare node.simplify
  | .root inner | .body inner => by
      rw [simplify]
      exact bare_simplify inner
  | .equations items => by
      rw [simplify]
      exact bare_iff.mpr ⟨rfl, bare_simplifyAll items⟩
  | .equation target value => by
      rw [simplify]
      exact bare_iff.mpr ⟨rfl, List.forall_mem_singleton.mpr (bare_simplify value)⟩
  | .union left right | .difference left right => by
      rw [simplify]
      refine bare_iff.mpr ⟨rfl, List.forall_mem_cons.mpr ⟨bare_simplify left, ?_⟩⟩
      exact List.forall_mem_singleton.mpr (bare_simplify right)
  | .set _ | .dataPoint _ | .definition _ => by
      rw [simplify]
      exact bare_iff.mpr ⟨rfl, nofun⟩

theorem bare_simplifyAll : ∀ items : List Node, ∀ item ∈ simplifyAll items, Bare item
  | [] => nofun
  | item :: rest => List.forall_mem_cons.mpr ⟨bare_simplify item, bare_simplifyAll rest⟩

end

mutual

theorem simplify_of_bare : ∀ node : Node, Bare node → node.simplify = node
  | .root _, bare | .body _, bare => by cases (bare_iff.mp bare).1
  | .equations items, bare => by
      rw [simplify, simplifyAll_of_bare items (bare_iff.mp bare).2]
  | .equation target value, bare => by
      have parts := (bare_iff.mp bare).2
      rw [simplify, simplify_of_bare value (parts value List.mem_cons_self)]
  | .union left right, bare | .difference left right, bare => by
      have parts := (bare_iff.mp bare).2
      rw [simplify, simplify_of_bare left (parts left List.mem_cons_self),
        simplify_of_bare right (parts right (List.mem_cons_of_mem _ List.mem_cons_self))]
  | .set _, _ | .dataPoint _, _ | .definition _, _ => by rw [simplify]

theorem simplifyAll_of_bare : ∀ items : List Node, (∀ item ∈ items, Bare item) →
    simplifyAll items = items
  | [], _ => rfl
  | item :: rest, bare => by
      obtain ⟨first, others⟩ := List.forall_mem_cons.mp bare
      rw [simplifyAll, simplify_of_bare item first, simplifyAll_of_bare rest others]

end

theorem simplify_eq_self_iff {node : Node} : node.simplify = node ↔ Bare node :=
  ⟨fun same => same ▸ bare_simplify node, simplify_of_bare node⟩

/-- The walk gives every tree its simplification, which is the one rewrite that goes on from a node to
its open parts; it leaves no wrapper exposed, is the same when it is done again, and changes just the
trees in which a wrapper is exposed. -/
theorem simplify_unwraps :
    (∀ node : Node, unwrap [.visit node] [] = some node.simplify) ∧
    (∀ rewrite : Node → Node, Unwraps rewrite ↔ rewrite = simplify) ∧
    (∀ node : Node, Bare node.simplify) ∧
    (∀ node : Node, node.simplify.simplify = node.simplify) ∧
    ∀ node : Node, node.simplify = node ↔ Bare node :=
  ⟨unwrap_visit, fun _ => unwraps_iff, bare_simplify,
    fun node => simplify_of_bare _ (bare_simplify node), fun _ => simplify_eq_self_iff⟩

example : simplify (.equation (.body (.dataPoint "L")) (.union (.root (.body (.dataPoint "L")))
    (.set [.body (.definition "d")]))) =
      .equation (.body (.dataPoint "L")) (.union (.dataPoint "L") (.set [.body (.definition "d")])) :=
  rfl

end Reaching.Node
