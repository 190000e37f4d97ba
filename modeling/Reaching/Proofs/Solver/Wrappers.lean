import Reaching.Proofs.Calls
import Reaching.Solver.Run

/-! # Removing wrappers keeps the meaning

`evaluate_simplify`: a tree and its simplification have the same value in every state, or report
the same undefined data point.  Nothing is assumed of the tree; wrappers, equations and lists may
stand inside sets and on both sides of an operator.

Two systems `Agree` if they have the same targets in the same order and each value is the same in
every state.  Such systems cannot be told apart by their passes (`Agree.pass_eq`), nor by the runs
that these make up (`Agree.iterate_eq`).

Main fact: `simplify_keeps_meaning` (a list of equations, the root around it and its simplification
have the same runs). -/
set_option autoImplicit false

namespace Reaching.Solver

/-! ## Values and definitions of a simplified tree -/

mutual

theorem evaluate_simplify (state : State) : ∀ node : Node,
    evaluate state node.simplify = evaluate state node
  | .dataPoint _ => rfl
  | .definition _ => rfl
  | .set _ => rfl
  | .union left right => by
      rw [Node.simplify, evaluate, evaluate, evaluate_simplify state left,
        evaluate_simplify state right]
  | .difference left right => by
      rw [Node.simplify, evaluate, evaluate, evaluate_simplify state left,
        evaluate_simplify state right]
  | .body value => by rw [Node.simplify, evaluate, evaluate_simplify state value]
  | .equation target value => by
      rw [Node.simplify, evaluate, evaluate, evaluate_simplify state value]
  | .equations items => by
      rw [Node.simplify, evaluate, evaluate, evaluateAll_simplifyAll state items]
  | .root content => by rw [Node.simplify, evaluate, evaluate_simplify state content]

theorem evaluateAll_simplifyAll (state : State) : ∀ items : List Node,
    evaluateAll state (Node.simplifyAll items) = evaluateAll state items
  | [] => rfl
  | item :: rest => by
      rw [Node.simplifyAll, evaluateAll, evaluateAll, evaluate_simplify state item,
        evaluateAll_simplifyAll state rest]

end

mutual

theorem definitionsIn_simplify : ∀ node : Node, definitionsIn node.simplify = definitionsIn node
  | .dataPoint _ => rfl
  | .definition _ => rfl
  | .set _ => rfl
  | .union left right => by
      rw [Node.simplify, definitionsIn, definitionsIn, definitionsIn_simplify left,
        definitionsIn_simplify right]
  | .difference left right => by
      rw [Node.simplify, definitionsIn, definitionsIn, definitionsIn_simplify left,
        definitionsIn_simplify right]
  | .body value => by rw [Node.simplify, definitionsIn, definitionsIn_simplify value]
  | .equation target value => by
      rw [Node.simplify, definitionsIn, definitionsIn, definitionsIn_simplify value]
  | .equations items => by
      rw [Node.simplify, definitionsIn, definitionsIn, definitionsInAll_simplifyAll items]
  | .root content => by rw [Node.simplify, definitionsIn, definitionsIn_simplify content]

theorem definitionsInAll_simplifyAll : ∀ items : List Node,
    definitionsInAll (Node.simplifyAll items) = definitionsInAll items
  | [] => rfl
  | item :: rest => by
      rw [Node.simplifyAll, definitionsInAll, definitionsInAll, definitionsIn_simplify item,
        definitionsInAll_simplifyAll rest]

end

/-! ## Systems that agree -/

def Agree : List Equation → List Equation → Prop :=
  List.Forall₂ fun one other =>
    one.target = other.target ∧ ∀ state, evaluate state one.value = evaluate state other.value

namespace Agree

variable {equations others : List Equation}

theorem stores_eq (agree : Agree equations others) (scheme : Scheme) (start : State) :
    ∀ soFar, stores scheme start equations soFar = stores scheme start others soFar := by
  induction agree with
  | nil => exact fun soFar => rfl
  | @cons one other rest more same agree ih =>
      intro soFar
      obtain ⟨target, value⟩ := same
      rw [stores, stores, value, target]
      cases evaluate (scheme.view start soFar) other.value with
      | error undefined => rfl
      | ok points => exact ih (soFar.put other.target points)

theorem pass_eq (agree : Agree equations others) (scheme : Scheme) (start : State) :
    pass scheme equations start = pass scheme others start :=
  agree.stores_eq scheme start start

theorem iterate_eq (agree : Agree equations others) (scheme : Scheme) (budget : Nat) :
    ∀ start, iterate scheme equations budget start = iterate scheme others budget start := by
  induction budget with
  | zero => exact fun start => rfl
  | succ budget ih =>
      intro start
      simp only [iterate, agree.pass_eq scheme start, ih]

theorem seed_eq (agree : Agree equations others) : seed equations = seed others := by
  have same : ∀ state : State,
      equations.foldl (fun state equation => state.put equation.target ∅) state =
        others.foldl (fun state equation => state.put equation.target ∅) state := by
    induction agree with
    | nil => exact fun state => rfl
    | cons same _ ih =>
        intro state
        rw [List.foldl_cons, List.foldl_cons, same.1, ih]
  exact same ∅

end Agree

/-- Runs of any length from the seed, and the results that are reported, are the same. -/
structure SameRuns (equations others : List Equation) : Prop where
  iterate_eq : ∀ scheme budget,
    iterate scheme equations budget (seed equations) = iterate scheme others budget (seed others)
  solve_eq : ∀ scheme, solve scheme equations = solve scheme others

theorem Agree.sameRuns {equations others : List Equation} (agree : Agree equations others)
    (definitions : equations.flatMap (definitionsIn ·.value) =
      others.flatMap (definitionsIn ·.value)) : SameRuns equations others := by
  have runs : ∀ scheme budget, iterate scheme equations budget (seed equations) =
      iterate scheme others budget (seed others) := by
    intro scheme budget
    rw [agree.seed_eq, agree.iterate_eq scheme budget]
  have count : stateCount equations = stateCount others := by
    rw [stateCount, stateCount, agree.seed_eq, definitions]
  refine ⟨runs, fun scheme => ?_⟩
  rw [solve, solve, count, runs, agree.seed_eq]

/-! ## Equations with simplified values -/

namespace Equation

def simplify (equation : Equation) : Equation := ⟨equation.target, equation.value.simplify⟩

theorem ofNode?_simplify {node : Node} {equation : Equation} (is : ofNode? node = .ok equation) :
    ofNode? node.simplify = .ok equation.simplify := by
  unfold ofNode? at is
  split at is
  · cases is
    rfl
  · cases is
    rfl
  · cases is

theorem mapM_ofNode?_simplify {items : List Node} {equations : List Equation}
    (are : items.mapM ofNode? = .ok equations) :
    (Node.simplifyAll items).mapM ofNode? = .ok (equations.map simplify) := by
  induction items generalizing equations with
  | nil =>
      cases are
      rfl
  | cons node rest ih =>
      rw [List.mapM_cons, Calls.bind_eq_ok] at are
      obtain ⟨equation, first, are⟩ := are
      obtain ⟨more, later, done⟩ := Calls.bind_eq_ok.mp are
      cases done
      rw [Node.simplifyAll, List.mapM_cons, ofNode?_simplify first, ih later]
      rfl

theorem sameRuns_simplify (equations : List Equation) :
    SameRuns equations (equations.map simplify) := by
  apply Agree.sameRuns
  · rw [Agree, List.forall₂_map_right_iff]
    refine List.forall₂_same.mpr fun equation _ => ⟨rfl, fun state => ?_⟩
    exact (evaluate_simplify state equation.value).symm
  · rw [List.flatMap_map]
    congr 1
    funext equation
    exact (definitionsIn_simplify equation.value).symm

end Equation

theorem simplify_keeps_meaning :
    (∀ (state : State) (node : Node), evaluate state node.simplify = evaluate state node) ∧
    ∀ (items : List Node) (equations : List Equation),
      equationsOf? (.equations items) = .ok equations → ∃ simplified,
        equationsOf? (.root (.equations items)) = .ok simplified ∧
        equationsOf? (Node.equations items).simplify = .ok simplified ∧
        SameRuns equations simplified := by
  refine ⟨evaluate_simplify, fun items equations listed => ?_⟩
  have simplified := Equation.mapM_ofNode?_simplify listed
  exact ⟨equations.map Equation.simplify, simplified, simplified,
    Equation.sameRuns_simplify equations⟩

def wrapped : List Node :=
  [.equation (.dataPoint "L1") (.body (.difference (.root (.body (.dataPoint "L2")))
      (.body (.set [.body (.definition "d1"), .equations []])))),
    .equation (.dataPoint "L2") (.union (.body (.dataPoint "L1")) (.root (.definition "d2")))]

def unwrapped : List Equation :=
  [⟨"L1", .difference (.dataPoint "L2") (.set [.body (.definition "d1"), .equations []])⟩,
    ⟨"L2", .union (.dataPoint "L1") (.definition "d2")⟩]

theorem simplify_keeps_meaning_wrapped :
    ∃ equations, equationsOf? (.equations wrapped) = .ok equations ∧
      equationsOf? (.root (.equations wrapped)) = .ok unwrapped ∧ SameRuns equations unwrapped := by
  obtain ⟨simplified, root, _, same⟩ := simplify_keeps_meaning.2 wrapped _ rfl
  have found : equationsOf? (.root (.equations wrapped)) = .ok unwrapped := rfl
  rw [found] at root
  cases root
  exact ⟨_, rfl, found, same⟩

end Reaching.Solver
