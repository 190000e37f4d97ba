import Mathlib
import Reaching.Proofs.Document.KillFree
import Reaching.Proofs.Solver.Outcome

/-! # Definitions are analysed independently

`Document.keep` deletes all definitions but the kept ones from every set of a document, from those
that are added and from those that are taken away.  What a definition does in a pass depends on where
it is written and on nothing else: a kept definition is written in the same places as before
(`Expr.yields_keep`), and one that is deleted is written nowhere, so it is never held.  Hence the
states of the shorter document are those of the document with the other definitions taken out
(`stateAfter_keep`).

Main fact: `definitions_analysed_independently`. -/
set_option autoImplicit false

namespace Reaching

/-! ## Sets and states with some definitions kept -/

namespace Solver

section Keep

variable (kept : Set String) [DecidablePred (· ∈ kept)]

def PointSet.keep (points : PointSet) : PointSet :=
  ⟨points.names.filter (· ∈ kept), points.ascending.filter _⟩

theorem PointSet.mem_keep (name : String) (points : PointSet) :
    name ∈ points.keep kept ↔ name ∈ points ∧ name ∈ kept := by
  change name ∈ points.names.filter _ ↔ _
  simp [PointSet.mem_def]

namespace State

def keep (state : State) : State :=
  ⟨state.entries.map fun entry => (entry.1, entry.2.keep kept), by
    rw [List.map_map]
    exact state.nodup⟩

@[simp] theorem names_keep (state : State) : (state.keep kept).names = state.names := by
  rw [names, keep, List.map_map]
  rfl

theorem lookup_map_keep (name : String) : ∀ entries : List (String × PointSet),
    (entries.map fun entry => (entry.1, entry.2.keep kept)).lookup name =
      (entries.lookup name).map (·.keep kept) := by
  intro entries
  induction entries with
  | nil => rfl
  | cons entry rest ih =>
      obtain ⟨head, set⟩ := entry
      by_cases same : name = head
      · simp [same]
      · have unequal : (name == head) = false := beq_false_of_ne same
        simp only [List.map_cons, List.lookup_cons, unequal, ih]

theorem get?_keep (state : State) (name : String) :
    (state.keep kept).get? name = (state.get? name).map (·.keep kept) :=
  lookup_map_keep kept name state.entries

theorem mem_held_keep {d name : String} (state : State) :
    name ∈ (state.keep kept).held d ↔ name ∈ state.held d ∧ d ∈ kept := by
  rw [mem_held, mem_held, points, points, get?_keep]
  cases state.get? name with
  | none => simp [PointSet.not_mem_empty]
  | some set => exact PointSet.mem_keep kept d set

end State

end Keep

theorem seed_eq_foldl_targets (equations : List Equation) :
    seed equations = (targets equations).foldl (fun state target => state.put target ∅) ∅ := by
  rw [seed, targets, List.foldl_map]

end Solver

/-! ## Documents with some definitions kept -/

namespace Source

open Solver (Scheme State Course Closed targets stateAfter solve written storesHeld passHeld)

section Keep

variable (kept : Set String) [DecidablePred (· ∈ kept)]

def SetLiteral.keep (items : SetLiteral) : SetLiteral := items.filter (·.text ∈ kept)

def Operand.keep : Operand → Operand
  | point name => point name
  | set items => set (items.keep kept)

def Expr.keep : Expr → Expr
  | operand first => operand (first.keep kept)
  | union left right => union left.keep (right.keep kept)
  | difference left right => difference left.keep (right.keep kept)

def Equation.keep (equation : Equation) : Equation := ⟨equation.target, equation.value.keep kept⟩

def Document.keep (document : Document) : Document := document.map (Equation.keep kept)

variable {kept}

/-! ## What is left in an expression -/

theorem SetLiteral.mem_texts_keep (d : String) (items : SetLiteral) :
    d ∈ (items.keep kept).texts ↔ d ∈ items.texts ∧ d ∈ kept := by
  simp only [texts, keep, List.mem_map, List.mem_filter, decide_eq_true_eq]
  constructor
  · rintro ⟨name, ⟨member, inside⟩, rfl⟩
    exact ⟨⟨name, member, rfl⟩, inside⟩
  · rintro ⟨⟨name, member, rfl⟩, inside⟩
    exact ⟨name, ⟨member, inside⟩, rfl⟩

theorem SetLiteral.yields_keep {d : String} (held : Set String) (inside : d ∈ kept)
    (items : SetLiteral) : (items.keep kept).toNode.Yields d held ↔ items.toNode.Yields d held := by
  rw [yields_toNode, yields_toNode, mem_texts_keep, and_iff_left inside]

theorem Operand.yields_keep {d : String} (held : Set String) (inside : d ∈ kept)
    (operand : Operand) :
    (operand.keep kept).toNode.Yields d held ↔ operand.toNode.Yields d held := by
  cases operand with
  | point name => exact Iff.rfl
  | set items => exact items.yields_keep held inside

theorem Expr.yields_keep {d : String} (held : Set String) (inside : d ∈ kept) (value : Expr) :
    (value.keep kept).toNode.Yields d held ↔ value.toNode.Yields d held := by
  induction value with
  | operand first => exact first.yields_keep held inside
  | union left right ih => exact or_congr ih (right.yields_keep held inside)
  | difference left right ih => exact and_congr ih (not_congr (right.yields_keep held inside))

theorem SetLiteral.definitionsIn_toNode (items : SetLiteral) :
    Solver.definitionsIn items.toNode = items.texts := by
  rw [toNode, Solver.definitionsIn, texts]
  induction items with
  | nil => rfl
  | cons name rest ih =>
      rw [List.map_cons, List.map_cons, Solver.definitionsInAll, ih]
      rfl

theorem Operand.mem_kept_of_written {d : String} (operand : Operand)
    (here : d ∈ Solver.definitionsIn (operand.keep kept).toNode) : d ∈ kept := by
  cases operand with
  | point name => exact absurd here List.not_mem_nil
  | set items =>
      rw [keep, toNode, SetLiteral.definitionsIn_toNode, SetLiteral.mem_texts_keep] at here
      exact here.2

theorem Expr.mem_kept_of_written {d : String} (value : Expr)
    (here : d ∈ Solver.definitionsIn (value.keep kept).toNode) : d ∈ kept := by
  induction value with
  | operand first => exact first.mem_kept_of_written here
  | union left right ih =>
      rcases List.mem_append.mp here with before | last
      · exact ih before
      · exact right.mem_kept_of_written last
  | difference left right ih =>
      rcases List.mem_append.mp here with before | last
      · exact ih before
      · exact Operand.mem_kept_of_written (.set right) last

theorem Operand.references_keep (operand : Operand) :
    (operand.keep kept).toNode.references = operand.toNode.references := by
  cases operand with
  | point name => rfl
  | set items =>
      rw [keep, toNode, toNode, SetLiteral.references_toNode, SetLiteral.references_toNode]

theorem Expr.references_keep (value : Expr) :
    (value.keep kept).toNode.references = value.toNode.references := by
  induction value with
  | operand first => exact first.references_keep
  | union left right ih =>
      rw [keep, toNode, toNode, Node.references, Node.references, ih, right.references_keep]
  | difference left right ih =>
      rw [keep, toNode, toNode, Node.references, Node.references, ih, SetLiteral.references_toNode,
        SetLiteral.references_toNode]

/-! ## Systems and their states -/

theorem targets_keep (document : Document) :
    targets (document.keep kept).system = targets document.system := by
  rw [targets_system, targets_system, Document.keep, List.map_map]
  rfl

theorem closed_keep {document : Document} (closed : Closed document.system) :
    Closed (document.keep kept).system := by
  intro equation member name reference
  rw [targets_keep]
  obtain ⟨shortened, listed, rfl⟩ := List.mem_map.mp member
  obtain ⟨original, here, rfl⟩ := List.mem_map.mp listed
  rw [Equation.keep, Expr.references_keep] at reference
  exact closed _ (List.mem_map_of_mem here) name reference

theorem notMem_written_keep {d : String} (outside : d ∉ kept) (document : Document) :
    d ∉ written (document.keep kept).system := by
  rw [Solver.mem_written]
  rintro ⟨equation, member, here⟩
  obtain ⟨shortened, listed, rfl⟩ := List.mem_map.mp member
  obtain ⟨original, _, rfl⟩ := List.mem_map.mp listed
  exact outside (original.value.mem_kept_of_written here)

theorem storesHeld_keep {d : String} (inside : d ∈ kept) (scheme : Scheme) (start : Set String) :
    ∀ (document : Document) (soFar : Set String),
      storesHeld d scheme start (document.keep kept).system soFar =
        storesHeld d scheme start document.system soFar := by
  intro document
  induction document with
  | nil => intro soFar; rfl
  | cons equation rest ih =>
      intro soFar
      have same := propext
        (equation.value.yields_keep (scheme.view start soFar) inside)
      simp only [Document.keep, Document.system, List.map_cons, storesHeld] at ih ⊢
      rw [Equation.keep, same, ih]

theorem stateAfter_keep {document : Document} (closed : Closed document.system) (scheme : Scheme)
    (passes : Nat) :
    stateAfter scheme (document.keep kept).system passes =
      (stateAfter scheme document.system passes).keep kept := by
  have shorter : Closed (document.keep kept).system := closed_keep closed
  apply State.ext_held
  · rw [State.names_keep, Solver.names_stateAfter shorter, Solver.names_stateAfter closed,
      Solver.seed_eq_foldl_targets, Solver.seed_eq_foldl_targets, targets_keep]
  · intro d
    ext name
    rw [State.mem_held_keep]
    -- A kept definition goes through the same stores; one that is deleted is written nowhere.
    by_cases inside : d ∈ kept
    · have same : passHeld d scheme (document.keep kept).system =
          passHeld d scheme document.system := by
        funext held
        exact storesHeld_keep inside scheme held document held
      rw [Solver.held_stateAfter shorter, Solver.held_stateAfter closed, same, and_iff_left inside]
    · refine iff_of_false (fun member => ?_) (fun member => inside member.2)
      exact notMem_written_keep inside document (Solver.mem_written_of_held shorter member)

end Keep

/-- The document with some definitions kept makes the passes of the document, as far as these
definitions go, and comes to the same result after no more passes. -/
structure AnalysedApart (kept : Set String) [DecidablePred (· ∈ kept)] (scheme : Scheme)
    (document : Document) : Prop where
  passes : ∃ whole part : Nat → State,
    Course scheme document.system whole ∧ Course scheme (document.keep kept).system part ∧
      ∀ k, part k = (whole k).keep kept
  result : ∃ whole part, solve scheme document.system = .ok (some whole) ∧
    solve scheme (document.keep kept).system = .ok (some part) ∧
      part.passes ≤ whole.passes ∧ part.solution = whole.solution.keep kept

theorem definitions_analysed_independently (kept : Set String) [DecidablePred (· ∈ kept)]
    (scheme : Scheme) (document : Document) (closed : Closed document.system) :
    Solver.equationsOf? document.toNode.simplify = .ok document.system ∧
      Solver.equationsOf? (document.keep kept).toNode.simplify =
          .ok (document.keep kept).system ∧
        AnalysedApart kept scheme document := by
  have shorter : Closed (document.keep kept).system := closed_keep closed
  have follows : ∀ passes, stateAfter scheme (document.keep kept).system passes =
      (stateAfter scheme document.system passes).keep kept := stateAfter_keep closed scheme
  refine ⟨equationsOf?_toNode document, equationsOf?_toNode _, ⟨?_, ?_⟩⟩
  · exact ⟨_, _, Solver.course_stateAfter closed scheme, Solver.course_stateAfter shorter scheme,
      follows⟩
  · obtain ⟨last, _, settles⟩ :=
      Solver.exists_settlesAt closed (constantSubtrahends_system document) scheme
    have solved := (Solver.solve_eq_some_iff closed scheme).mpr ⟨last, settles, rfl⟩
    obtain ⟨part, found⟩ := Solver.exists_solve_of_image closed scheme shorter follows solved
    exact ⟨_, part, solved, found⟩

def exchange : Document :=
  [⟨⟨"L1", ⟨1, 1⟩⟩, .union (.difference (.operand (.point ⟨"L2", ⟨1, 6⟩⟩)) [⟨"d2", ⟨1, 12⟩⟩])
      (.set [⟨"d1", ⟨1, 19⟩⟩, ⟨"d3", ⟨1, 23⟩⟩])⟩,
    ⟨⟨"L2", ⟨2, 1⟩⟩, .union (.difference (.operand (.point ⟨"L1", ⟨2, 6⟩⟩))
      [⟨"d1", ⟨2, 12⟩⟩, ⟨"d4", ⟨2, 16⟩⟩]) (.set [⟨"d2", ⟨2, 23⟩⟩])⟩]

def middle : Set String := {name | name ∈ ["d2", "d3"]}

instance : DecidablePred (· ∈ middle) :=
  fun name => inferInstanceAs (Decidable (name ∈ ["d2", "d3"]))

theorem definitions_analysed_independently_exchange :
    Closed exchange.system ∧
      (exchange.keep middle).system =
        [⟨"L1", .union (.difference (.dataPoint "L2") (.set [.definition "d2"]))
            (.set [.definition "d3"])⟩,
          ⟨"L2", .union (.difference (.dataPoint "L1") (.set [])) (.set [.definition "d2"])⟩] ∧
        AnalysedApart middle .jacobi exchange := by
  have closed : Closed exchange.system := by decide
  exact ⟨closed, rfl, (definitions_analysed_independently middle .jacobi exchange closed).2.2⟩

end Source

end Reaching
