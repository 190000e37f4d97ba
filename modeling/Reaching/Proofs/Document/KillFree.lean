import Mathlib
import Reaching.Proofs.Solver.LeastSolution

/-! # Definitions reach a data point along kill-free paths

An expression is read from left to right as operands that are added and sets that are taken away
(`Expr.steps`).  An operand survives a definition if no set taken away after it holds the
definition. A `KillFreePath` is a chain of data points in which each equation has a surviving
reference to the next and the last a surviving set with the definition.

Main fact: `mem_solution_iff_killFreePath` (a definition is in the set of a data point exactly if
such a path leads from it). -/
set_option autoImplicit false

namespace Reaching.Source

open Solver (Scheme Closed targets solve)

inductive Step where
  | adds (operand : Operand)
  | takes (items : SetLiteral)

def Expr.steps : Expr → List Step
  | operand first => [.adds first]
  | union left right => left.steps ++ [.adds right]
  | difference left right => left.steps ++ [.takes right]

def SetLiteral.texts (items : SetLiteral) : List String := items.map Name.text

/-- An operand is added and no set that is taken away after it holds the definition. -/
def Expr.Survives (d : String) (value : Expr) (operand : Operand) : Prop :=
  ∃ before after, value.steps = before ++ .adds operand :: after ∧
    ∀ items, .takes items ∈ after → d ∉ SetLiteral.texts items

/-- The first `length + 1` of a sequence of data points: each has a surviving reference to the next,
and the last a surviving set with the definition. -/
structure KillFreePath (document : Document) (d : String) (length : Nat) (point : Nat → String) :
    Prop where
  link : ∀ i < length, ∃ equation ∈ document, equation.target.text = point i ∧
    ∃ name, equation.value.Survives d (.point name) ∧ name.text = point (i + 1)
  origin : ∃ equation ∈ document, equation.target.text = point length ∧
    ∃ items, equation.value.Survives d (.set items) ∧ d ∈ items.texts

/-! ## What an expression yields is what survives in it -/

theorem Expr.survives_operand (d : String) (first operand : Operand) :
    (Expr.operand first).Survives d operand ↔ operand = first := by
  constructor
  · rintro ⟨before, after, split, _⟩
    rw [steps, List.cons_eq_append_iff] at split
    rcases split with ⟨rfl, same⟩ | ⟨early, _, nothing⟩
    · cases same
      rfl
    · simp at nothing
  · rintro rfl
    exact ⟨[], [], rfl, fun items member => absurd member List.not_mem_nil⟩

theorem Expr.survives_union (d : String) (left : Expr) (right operand : Operand) :
    (Expr.union left right).Survives d operand ↔ left.Survives d operand ∨ operand = right := by
  constructor
  · rintro ⟨before, after, split, spared⟩
    rw [steps] at split
    rcases List.eq_nil_or_concat after with rfl | ⟨earlier, last, rfl⟩
    · have ends := List.append_inj_right' split rfl
      cases ends
      exact Or.inr rfl
    · rw [List.concat_eq_append, ← List.cons_append, ← List.append_assoc] at split
      have starts := List.append_inj_left' split rfl
      refine Or.inl ⟨before, earlier, starts, fun items member => spared items ?_⟩
      exact List.concat_eq_append ▸ List.mem_append_left _ member
  · rintro (⟨before, after, split, spared⟩ | rfl)
    · refine ⟨before, after ++ [.adds right], ?_, fun items member => spared items ?_⟩
      · rw [steps, split, List.append_assoc, List.cons_append]
      · simpa using member
    · exact ⟨left.steps, [], rfl, fun items member => absurd member List.not_mem_nil⟩

theorem Expr.survives_difference (d : String) (left : Expr) (right : SetLiteral)
    (operand : Operand) :
    (Expr.difference left right).Survives d operand ↔
      left.Survives d operand ∧ d ∉ right.texts := by
  constructor
  · rintro ⟨before, after, split, spared⟩
    rw [steps] at split
    rcases List.eq_nil_or_concat after with rfl | ⟨earlier, last, rfl⟩
    · have ends := List.append_inj_right' split rfl
      cases ends
    · rw [List.concat_eq_append, ← List.cons_append, ← List.append_assoc] at split
      have starts := List.append_inj_left' split rfl
      have ends := List.append_inj_right' split rfl
      cases ends
      rw [List.concat_eq_append] at spared
      refine ⟨⟨before, earlier, starts, fun items member => spared items ?_⟩, spared right ?_⟩
      · exact List.mem_append_left _ member
      · exact List.mem_append_right _ List.mem_cons_self
  · rintro ⟨⟨before, after, split, spared⟩, kept⟩
    refine ⟨before, after ++ [.takes right], ?_, fun items member => ?_⟩
    · rw [steps, split, List.append_assoc, List.cons_append]
    · rcases List.mem_append.mp member with earlier | last
      · exact spared items earlier
      · cases List.mem_singleton.mp last
        exact kept

theorem SetLiteral.yields_toNode (d : String) (held : Set String) (items : SetLiteral) :
    items.toNode.Yields d held ↔ d ∈ items.texts := by
  rw [toNode, Node.Yields, texts]
  induction items with
  | nil => simp [Node.YieldsAny]
  | cons name rest ih =>
      rw [List.map_cons, List.map_cons, Node.YieldsAny, Node.Yields, ih, List.mem_cons]

theorem Expr.yields_toNode (d : String) (held : Set String) (value : Expr) :
    value.toNode.Yields d held ↔
      ∃ operand, value.Survives d operand ∧ operand.toNode.Yields d held := by
  induction value with
  | operand first => simp [survives_operand, toNode]
  | union left right ih =>
      simp only [survives_union, or_and_right, exists_or, exists_eq_left]
      rw [toNode, Node.Yields, ih]
  | difference left right ih =>
      simp only [survives_difference, and_right_comm, exists_and_right]
      rw [toNode, Node.Yields, ih, SetLiteral.yields_toNode]

/-! ## Paths -/

section Paths

variable {document : Document} {d : String}

/-- A set that satisfies the equations holds every data point from which a path leads. -/
theorem KillFreePath.mem_held {held : Set String}
    (satisfied : ∀ equation ∈ document,
      equation.value.toNode.Yields d held → equation.target.text ∈ held) :
    ∀ (length : Nat) (point : Nat → String),
      KillFreePath document d length point → point 0 ∈ held := by
  intro length
  induction length with
  | zero =>
      intro point path
      obtain ⟨equation, member, target, items, survives, inside⟩ := path.origin
      rw [← target]
      apply satisfied equation member
      rw [Expr.yields_toNode]
      exact ⟨.set items, survives, (SetLiteral.yields_toNode d held items).mpr inside⟩
  | succ length ih =>
      intro point path
      have later : point 1 ∈ held :=
        ih (fun i => point (i + 1)) ⟨fun i below => path.link (i + 1) (by omega), path.origin⟩
      obtain ⟨equation, member, target, name, survives, next⟩ := path.link 0 (by omega)
      rw [← target]
      apply satisfied equation member
      rw [Expr.yields_toNode]
      refine ⟨.point name, survives, ?_⟩
      change name.text ∈ held
      rw [next]
      exact later

/-- Every equation leads to data points from which a path leads. -/
theorem exists_killFreePath_of_yields {equation : Equation} (member : equation ∈ document)
    (yields : equation.value.toNode.Yields d
      {name | ∃ length point, point 0 = name ∧ KillFreePath document d length point}) :
    ∃ length point, point 0 = equation.target.text ∧ KillFreePath document d length point := by
  rw [Expr.yields_toNode] at yields
  obtain ⟨operand, survives, yields⟩ := yields
  cases operand with
  | set items =>
      rw [Operand.toNode, SetLiteral.yields_toNode] at yields
      refine ⟨0, fun _ => equation.target.text, rfl, ?_, ?_⟩
      · intro i below
        omega
      · exact ⟨equation, member, rfl, items, survives, yields⟩
  | point name =>
      obtain ⟨length, point, start, path⟩ := yields
      refine ⟨length + 1, fun i => Nat.casesOn i equation.target.text point, rfl, ?_, path.origin⟩
      intro i below
      cases i with
      | zero => exact ⟨equation, member, rfl, name, survives, start.symm⟩
      | succ i => exact path.link i (by omega)

end Paths

theorem mem_solution_iff_killFreePath (document : Document)
    (distinct : (targets document.system).Nodup) (closed : Closed document.system)
    (scheme : Scheme) :
    Solver.equationsOf? document.toNode = .ok document.system ∧
      ∃ result, solve scheme document.system = .ok (some result) ∧
        ∀ start d, d ∈ result.solution.points start ↔
          ∃ length point, point 0 = start ∧ KillFreePath document d length point := by
  refine ⟨equationsOf?_toNode document, ?_⟩
  obtain ⟨result, solved, _, least⟩ :=
    Solver.solve_spec closed distinct (constantSubtrahends_system document) scheme
  refine ⟨result, solved, fun start d => ?_⟩
  rw [← Solver.State.mem_held]
  constructor
  · intro member
    refine (least d).least
      {name | ∃ length point, point 0 = name ∧ KillFreePath document d length point} ?_ member
    intro equation listed yields
    obtain ⟨written, here, rfl⟩ := List.mem_map.mp listed
    exact exists_killFreePath_of_yields here yields
  · rintro ⟨length, point, rfl, path⟩
    refine KillFreePath.mem_held (fun equation member yields => ?_) length point path
    exact ((least d).satisfied _ (List.mem_map_of_mem member)).mpr yields

/-- Two data points that feed each other; the first takes away what the second adds. -/
def ring : Document :=
  [⟨⟨"L1", ⟨1, 1⟩⟩, .union (.difference (.operand (.point ⟨"L2", ⟨1, 6⟩⟩)) [⟨"d2", ⟨1, 12⟩⟩])
      (.set [⟨"d1", ⟨1, 19⟩⟩])⟩,
    ⟨⟨"L2", ⟨2, 1⟩⟩, .union (.operand (.point ⟨"L1", ⟨2, 6⟩⟩)) (.set [⟨"d2", ⟨2, 12⟩⟩])⟩]

theorem mem_solution_iff_killFreePath_ring :
    (targets ring.system).Nodup ∧ Closed ring.system ∧
      ∃ result, solve .inPlace ring.system = .ok (some result) ∧
        ("d1" ∈ result.solution.points "L2" ↔
          ∃ length point, point 0 = "L2" ∧ KillFreePath ring "d1" length point) := by
  have distinct : (targets ring.system).Nodup := by decide
  have closed : Closed ring.system := by decide
  obtain ⟨_, result, solved, reaches⟩ := mem_solution_iff_killFreePath ring distinct closed .inPlace
  exact ⟨distinct, closed, result, solved, reaches "L2" "d1"⟩

end Reaching.Source
