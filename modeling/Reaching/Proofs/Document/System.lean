import Reaching.Proofs.Grammar.Accepted
import Reaching.Proofs.Solver.Pass
import Reaching.Source.Text

/-! # The system of a document

`Document.system` lists the equations of a document as the solver takes them, and
`equationsOf?_toNode` says that they are what it finds in the tree of the document: removing the
wrappers changes no expression that can be written.

Only sets can be written after a difference, so no data point is subtracted in a document
(`constantSubtrahends_system`).  A text that is read holds at least one equation
(`ne_nil_of_ofText?`). -/
set_option autoImplicit false

namespace Reaching.Source

open Solver (equationsOf? targets ConstantSubtrahends)

def Document.system (document : Document) : List Solver.Equation :=
  document.map fun equation => ⟨equation.target.text, equation.value.toNode⟩

theorem targets_system (document : Document) :
    targets document.system = document.map fun equation => equation.target.text := by
  simp [targets, Document.system]

/-! ## Expressions that can be written -/

@[simp] theorem Operand.simplify_toNode (operand : Operand) :
    operand.toNode.simplify = operand.toNode := by
  cases operand with
  | point name => simp [toNode, Node.simplify]
  | set items => simp [toNode, SetLiteral.toNode, Node.simplify]

@[simp] theorem Expr.simplify_toNode (value : Expr) : value.toNode.simplify = value.toNode := by
  induction value with
  | operand first => exact first.simplify_toNode
  | union left right ih => simp [toNode, Node.simplify, ih]
  | difference left right ih => simp [toNode, SetLiteral.toNode, Node.simplify, ih]

theorem SetLiteral.references_toNode (items : SetLiteral) : items.toNode.references = [] := by
  rw [toNode, Node.references]
  induction items with
  | nil => rfl
  | cons name rest ih =>
      rw [List.map_cons, Node.referencesAll, ih]
      rfl

theorem SetLiteral.subtracted_toNode (items : SetLiteral) : items.toNode.subtracted = [] := by
  rw [toNode, Node.subtracted]
  induction items with
  | nil => rfl
  | cons name rest ih =>
      rw [List.map_cons, Node.subtractedAll, ih]
      rfl

theorem Operand.subtracted_toNode (operand : Operand) : operand.toNode.subtracted = [] := by
  cases operand with
  | point name => rfl
  | set items => exact SetLiteral.subtracted_toNode items

theorem Expr.subtracted_toNode (value : Expr) : value.toNode.subtracted = [] := by
  induction value with
  | operand first => exact first.subtracted_toNode
  | union left right ih =>
      rw [toNode, Node.subtracted, ih, right.subtracted_toNode, List.append_nil]
  | difference left right ih =>
      rw [toNode, Node.subtracted, ih, SetLiteral.references_toNode, List.append_nil]

theorem constantSubtrahends_system (document : Document) :
    ConstantSubtrahends document.system := by
  intro equation member
  obtain ⟨written, _, rfl⟩ := List.mem_map.mp member
  exact written.value.subtracted_toNode

/-! ## The tree of a document -/

theorem mapM_ofNode?_simplifyAll (document : Document) :
    (Node.simplifyAll (document.map Equation.toNode)).mapM Solver.Equation.ofNode? =
      .ok document.system := by
  induction document with
  | nil => rfl
  | cons equation rest ih =>
      have first : Solver.Equation.ofNode? equation.toNode.simplify =
          .ok ⟨equation.target.text, equation.value.toNode⟩ := by
        rw [Equation.toNode, Node.simplify, Node.simplify, Expr.simplify_toNode]
        rfl
      rw [List.map_cons, Node.simplifyAll, List.mapM_cons, first, ih]
      rfl

theorem equationsOf?_toNode (document : Document) :
    equationsOf? document.toNode = .ok document.system := by
  rw [Document.toNode, equationsOf?, Node.simplify, Solver.Equation.listOfNode?]
  exact mapM_ofNode?_simplifyAll document

/-! ## Documents that have been read -/

theorem ne_nil_of_ofText? {dialect : Dialect} {text : String} {document : Document}
    (read : Document.ofText? dialect text = .ok document) : document ≠ [] := by
  obtain ⟨found, _, spelled⟩ := ofText?_eq_ok.mp read
  exact spelled.ne_nil

end Reaching.Source
