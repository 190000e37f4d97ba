import Reaching.Proofs.Solver.Contents
import Reaching.Solver.Run

/-! # What an expression refers to and what it yields

`Node.references` lists the data points of a tree from left to right, and `Node.subtracted` those of
them that stand on the right of a difference.  `Node.added` lists the definitions that stand on the
right of none.  `Node.Yields d held` tells, for one definition `d` alone, whether the value of a tree
holds it when `held` is the set of data points that do.

Main facts: `evaluate_spec` (a tree whose references are all present has a value, and it holds `d`
exactly if the tree yields it), `evaluate_congr` (states that agree on the references of a tree give
it the same value), `Node.yields_congr` (the same for one definition) and `Node.yields_mono` (a tree
that subtracts no data point yields no less where more is held). -/
set_option autoImplicit false

namespace Reaching

namespace Node

mutual

def references : Node → List String
  | .dataPoint name => [name]
  | .definition _ => []
  | .union left right => references left ++ references right
  | .difference left right => references left ++ references right
  | .set items => referencesAll items
  | .body value => references value
  | .equation target value => references target ++ references value
  | .equations items => referencesAll items
  | .root content => references content

def referencesAll : List Node → List String
  | [] => []
  | item :: rest => references item ++ referencesAll rest

end

mutual

def subtracted : Node → List String
  | .dataPoint _ => []
  | .definition _ => []
  | .union left right => subtracted left ++ subtracted right
  | .difference left right => subtracted left ++ references right
  | .set items => subtractedAll items
  | .body value => subtracted value
  | .equation target value => subtracted target ++ subtracted value
  | .equations items => subtractedAll items
  | .root content => subtracted content

def subtractedAll : List Node → List String
  | [] => []
  | item :: rest => subtracted item ++ subtractedAll rest

end

mutual

/-- Lists the definitions of a tree that stand on the right of no difference, from left to right. -/
def added : Node → List String
  | .dataPoint _ => []
  | .definition name => [name]
  | .union left right => added left ++ added right
  | .difference left _ => added left
  | .set items => addedAll items
  | .body value => added value
  | .equation target value => added target ++ added value
  | .equations items => addedAll items
  | .root content => added content

def addedAll : List Node → List String
  | [] => []
  | item :: rest => added item ++ addedAll rest

end

mutual

/-- Tells whether a tree yields a definition, given the data points that hold it. -/
def Yields (d : String) (held : Set String) : Node → Prop
  | .dataPoint name => name ∈ held
  | .definition name => d = name
  | .union left right => Yields d held left ∨ Yields d held right
  | .difference left right => Yields d held left ∧ ¬ Yields d held right
  | .set items => YieldsAny d held items
  | .body value => Yields d held value
  | .equation target value => Yields d held target ∨ Yields d held value
  | .equations items => YieldsAny d held items
  | .root content => Yields d held content

def YieldsAny (d : String) (held : Set String) : List Node → Prop
  | [] => False
  | item :: rest => Yields d held item ∨ YieldsAny d held rest

end

/-! ## Monotone and constant expressions -/

mutual

/-- What a tree yields depends on nothing but the data points that it refers to. -/
theorem yields_congr {d : String} {held other : Set String} : ∀ node : Node,
    (∀ name ∈ node.references, name ∈ held ↔ name ∈ other) →
      (node.Yields d held ↔ node.Yields d other)
  | .dataPoint name, same => same name List.mem_cons_self
  | .definition _, _ => Iff.rfl
  | .union left right, same =>
      or_congr (yields_congr left fun name member => same name (List.mem_append_left _ member))
        (yields_congr right fun name member => same name (List.mem_append_right _ member))
  | .difference left right, same =>
      and_congr (yields_congr left fun name member => same name (List.mem_append_left _ member))
        (not_congr (yields_congr right fun name member => same name (List.mem_append_right _ member)))
  | .set items, same => yieldsAny_congr items same
  | .body value, same => yields_congr value same
  | .equation target value, same =>
      or_congr (yields_congr target fun name member => same name (List.mem_append_left _ member))
        (yields_congr value fun name member => same name (List.mem_append_right _ member))
  | .equations items, same => yieldsAny_congr items same
  | .root content, same => yields_congr content same

theorem yieldsAny_congr {d : String} {held other : Set String} : ∀ items : List Node,
    (∀ name ∈ referencesAll items, name ∈ held ↔ name ∈ other) →
      (YieldsAny d held items ↔ YieldsAny d other items)
  | [], _ => Iff.rfl
  | item :: rest, same =>
      or_congr (yields_congr item fun name member => same name (List.mem_append_left _ member))
        (yieldsAny_congr rest fun name member => same name (List.mem_append_right _ member))

end

/-- A tree without references yields the same wherever it stands. -/
theorem yields_of_no_references {d : String} (held other : Set String) {node : Node}
    (bare : node.references = []) (yields : node.Yields d held) : node.Yields d other := by
  refine (yields_congr node fun name member => ?_).mp yields
  rw [bare] at member
  exact absurd member List.not_mem_nil

mutual

theorem yields_mono {d : String} {held more : Set String} (grows : held ⊆ more) : ∀ node : Node,
    node.subtracted = [] → node.Yields d held → node.Yields d more
  | .dataPoint _, _, h => grows h
  | .definition _, _, h => h
  | .union left right, constant, h => by
      rw [subtracted, List.append_eq_nil_iff] at constant
      exact Or.imp (yields_mono grows left constant.1) (yields_mono grows right constant.2) h
  | .difference left right, constant, h => by
      rw [subtracted, List.append_eq_nil_iff] at constant
      refine ⟨yields_mono grows left constant.1 h.1, fun removed => ?_⟩
      exact h.2 (yields_of_no_references more held constant.2 removed)
  | .set items, constant, h => yieldsAny_mono grows items constant h
  | .body value, constant, h => yields_mono grows value constant h
  | .equation target value, constant, h => by
      rw [subtracted, List.append_eq_nil_iff] at constant
      exact Or.imp (yields_mono grows target constant.1) (yields_mono grows value constant.2) h
  | .equations items, constant, h => yieldsAny_mono grows items constant h
  | .root content, constant, h => yields_mono grows content constant h

theorem yieldsAny_mono {d : String} {held more : Set String} (grows : held ⊆ more) :
    ∀ items : List Node,
      subtractedAll items = [] → YieldsAny d held items → YieldsAny d more items
  | [], _, h => h
  | item :: rest, constant, h => by
      rw [subtractedAll, List.append_eq_nil_iff] at constant
      exact Or.imp (yields_mono grows item constant.1) (yieldsAny_mono grows rest constant.2) h

end

mutual

/-- A definition that a tree yields is added in it or held already. -/
theorem mem_added_of_yields {d : String} {held : Set String} : ∀ node : Node,
    node.Yields d held → d ∈ node.added ∨ held.Nonempty
  | .dataPoint name, h => Or.inr ⟨name, h⟩
  | .definition _, h => Or.inl (h ▸ List.mem_cons_self)
  | .union left right, h => by
      rcases h with h | h
      · exact (mem_added_of_yields left h).imp_left (List.mem_append_left _)
      · exact (mem_added_of_yields right h).imp_left (List.mem_append_right _)
  | .difference left _, h => mem_added_of_yields left h.1
  | .set items, h => mem_addedAll_of_yields items h
  | .body value, h => mem_added_of_yields value h
  | .equation target value, h => by
      rcases h with h | h
      · exact (mem_added_of_yields target h).imp_left (List.mem_append_left _)
      · exact (mem_added_of_yields value h).imp_left (List.mem_append_right _)
  | .equations items, h => mem_addedAll_of_yields items h
  | .root content, h => mem_added_of_yields content h

theorem mem_addedAll_of_yields {d : String} {held : Set String} : ∀ items : List Node,
    YieldsAny d held items → d ∈ addedAll items ∨ held.Nonempty
  | [], h => h.elim
  | item :: rest, h => by
      rcases h with h | h
      · exact (mem_added_of_yields item h).imp_left (List.mem_append_left _)
      · exact (mem_addedAll_of_yields rest h).imp_left (List.mem_append_right _)

end

mutual

theorem mem_definitionsIn_of_mem_added {d : String} : ∀ node : Node,
    d ∈ node.added → d ∈ Solver.definitionsIn node
  | .definition _, h => h
  | .union left right, h =>
      List.mem_append.mpr ((List.mem_append.mp h).imp (mem_definitionsIn_of_mem_added left)
        (mem_definitionsIn_of_mem_added right))
  | .difference left _, h => List.mem_append_left _ (mem_definitionsIn_of_mem_added left h)
  | .set items, h => mem_definitionsInAll_of_mem_addedAll items h
  | .body value, h => mem_definitionsIn_of_mem_added value h
  | .equation target value, h =>
      List.mem_append.mpr ((List.mem_append.mp h).imp (mem_definitionsIn_of_mem_added target)
        (mem_definitionsIn_of_mem_added value))
  | .equations items, h => mem_definitionsInAll_of_mem_addedAll items h
  | .root content, h => mem_definitionsIn_of_mem_added content h

theorem mem_definitionsInAll_of_mem_addedAll {d : String} : ∀ items : List Node,
    d ∈ addedAll items → d ∈ Solver.definitionsInAll items
  | [], h => h
  | item :: rest, h =>
      List.mem_append.mpr ((List.mem_append.mp h).imp (mem_definitionsIn_of_mem_added item)
        (mem_definitionsInAll_of_mem_addedAll rest))

end

theorem mem_definitionsIn_of_yields {d : String} {held : Set String} (node : Node)
    (yields : node.Yields d held) : d ∈ Solver.definitionsIn node ∨ held.Nonempty :=
  (mem_added_of_yields node yields).imp_left (mem_definitionsIn_of_mem_added node)

end Node

namespace Solver

/-! ## The value of an expression -/

mutual

theorem evaluate_spec {state : State} : ∀ node : Node,
    (∀ name ∈ node.references, name ∈ state.names) →
      ∃ points, evaluate state node = .ok points ∧
        ∀ d, d ∈ points ↔ node.Yields d (state.held d)
  | .dataPoint name, known => by
      have found := State.get?_of_mem (known name List.mem_cons_self)
      exact ⟨state.points name, by rw [evaluate, found], fun d => Iff.rfl⟩
  | .definition name, _ => ⟨.singleton name, rfl, fun d => PointSet.mem_singleton name d⟩
  | .union left right, known => by
      obtain ⟨points, first, here⟩ :=
        evaluate_spec left fun name member => known name (List.mem_append_left _ member)
      obtain ⟨added, second, there⟩ :=
        evaluate_spec right fun name member => known name (List.mem_append_right _ member)
      refine ⟨points ∪ added, by rw [evaluate, first, second]; rfl, fun d => ?_⟩
      rw [PointSet.mem_union, here, there, Node.Yields]
  | .difference left right, known => by
      obtain ⟨points, first, here⟩ :=
        evaluate_spec left fun name member => known name (List.mem_append_left _ member)
      obtain ⟨removed, second, there⟩ :=
        evaluate_spec right fun name member => known name (List.mem_append_right _ member)
      refine ⟨points \ removed, by rw [evaluate, first, second]; rfl, fun d => ?_⟩
      rw [PointSet.mem_diff, here, there, Node.Yields]
  | .set items, known => evaluateAll_spec items known
  | .body value, known => evaluate_spec value known
  | .equation target value, known => by
      obtain ⟨points, first, here⟩ :=
        evaluate_spec target fun name member => known name (List.mem_append_left _ member)
      obtain ⟨added, second, there⟩ :=
        evaluate_spec value fun name member => known name (List.mem_append_right _ member)
      refine ⟨points ∪ added, by rw [evaluate, first, second]; rfl, fun d => ?_⟩
      rw [PointSet.mem_union, here, there, Node.Yields]
  | .equations items, known => evaluateAll_spec items known
  | .root content, known => evaluate_spec content known

theorem evaluateAll_spec {state : State} : ∀ items : List Node,
    (∀ name ∈ Node.referencesAll items, name ∈ state.names) →
      ∃ points, evaluateAll state items = .ok points ∧
        ∀ d, d ∈ points ↔ Node.YieldsAny d (state.held d) items
  | [], _ => ⟨∅, rfl, fun d => iff_of_false (PointSet.not_mem_empty d) id⟩
  | item :: rest, known => by
      obtain ⟨points, first, here⟩ :=
        evaluate_spec item fun name member => known name (List.mem_append_left _ member)
      obtain ⟨added, second, there⟩ :=
        evaluateAll_spec rest fun name member => known name (List.mem_append_right _ member)
      refine ⟨points ∪ added, by rw [evaluateAll, first, second]; rfl, fun d => ?_⟩
      rw [PointSet.mem_union, here, there, Node.YieldsAny]

end

mutual

/-- A tree reads nothing of a state but the data points that it refers to. -/
theorem evaluate_congr {state other : State} : ∀ node : Node,
    (∀ name ∈ node.references, state.get? name = other.get? name) →
      evaluate state node = evaluate other node
  | .dataPoint name, same => by rw [evaluate, evaluate, same name List.mem_cons_self]
  | .definition _, _ => rfl
  | .union left right, same => by
      rw [evaluate, evaluate,
        evaluate_congr left fun name member => same name (List.mem_append_left _ member),
        evaluate_congr right fun name member => same name (List.mem_append_right _ member)]
  | .difference left right, same => by
      rw [evaluate, evaluate,
        evaluate_congr left fun name member => same name (List.mem_append_left _ member),
        evaluate_congr right fun name member => same name (List.mem_append_right _ member)]
  | .set items, same => evaluateAll_congr items same
  | .body value, same => evaluate_congr value same
  | .equation target value, same => by
      rw [evaluate, evaluate,
        evaluate_congr target fun name member => same name (List.mem_append_left _ member),
        evaluate_congr value fun name member => same name (List.mem_append_right _ member)]
  | .equations items, same => evaluateAll_congr items same
  | .root content, same => evaluate_congr content same

theorem evaluateAll_congr {state other : State} : ∀ items : List Node,
    (∀ name ∈ Node.referencesAll items, state.get? name = other.get? name) →
      evaluateAll state items = evaluateAll other items
  | [], _ => rfl
  | item :: rest, same => by
      rw [evaluateAll, evaluateAll,
        evaluate_congr item fun name member => same name (List.mem_append_left _ member),
        evaluateAll_congr rest fun name member => same name (List.mem_append_right _ member)]

end

end Solver

end Reaching
