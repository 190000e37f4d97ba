import Mathlib
import Reaching.Proofs.Document.System
import Reaching.Proofs.Solver.Alike
import Reaching.Proofs.Solver.Convergence

/-! # Data points with several equations

`latest` keeps, of all equations for one data point, the last.  Under `jacobi` the others have no
effect: what they store is overwritten before anything is read.  In place their values can be read
until the last equation overwrites them.  `OverwrittenUnread` says that none of the equations that
are kept does so.  Then each pass ends in states that are alike with the other equations and without
them (`stores_latest`), and so do whole runs (`stateAfter_latest`).

Main fact: `last_equation_wins`.  Without `OverwrittenUnread` it fails in place
(`overwritten_value_is_read`). -/
set_option autoImplicit false

namespace Reaching.Solver

def latest {α : Type} (name : α → String) : List α → List α
  | [] => []
  | item :: rest =>
    if name item ∈ rest.map name then latest name rest else item :: latest name rest

/-- Tells whether a data point has been stored and is yet to be stored again. -/
def Stale (stored : List String) (ahead : List Equation) (name : String) : Prop :=
  name ∈ stored ∧ name ∈ targets ahead

/-- No equation that is the last for its target refers to a data point while that is stale. -/
def OverwrittenUnread (stored : List String) : List Equation → Prop
  | [] => True
  | equation :: rest =>
    (equation.target ∉ targets rest →
      ∀ name ∈ equation.value.references, ¬ Stale stored (equation :: rest) name) ∧
    OverwrittenUnread (equation.target :: stored) rest

instance (stored : List String) (ahead : List Equation) (name : String) :
    Decidable (Stale stored ahead name) :=
  inferInstanceAs (Decidable (name ∈ stored ∧ name ∈ targets ahead))

instance decidableOverwrittenUnread : ∀ (stored : List String) (equations : List Equation),
    Decidable (OverwrittenUnread stored equations)
  | _, [] => inferInstanceAs (Decidable True)
  | stored, equation :: rest =>
    have := decidableOverwrittenUnread (equation.target :: stored) rest
    inferInstanceAs (Decidable ((equation.target ∉ targets rest →
      ∀ name ∈ equation.value.references, ¬ Stale stored (equation :: rest) name) ∧
        OverwrittenUnread (equation.target :: stored) rest))

/-! ## The equations that are kept -/

section Latest

variable {α : Type} (name : α → String)

theorem latest_cons_of_mem {item : α} {rest : List α} (again : name item ∈ rest.map name) :
    latest name (item :: rest) = latest name rest := if_pos again

theorem latest_cons_of_notMem {item : α} {rest : List α} (last : name item ∉ rest.map name) :
    latest name (item :: rest) = item :: latest name rest := if_neg last

theorem mem_map_latest (other : String) : ∀ items : List α,
    other ∈ (latest name items).map name ↔ other ∈ items.map name := by
  intro items
  induction items with
  | nil => exact Iff.rfl
  | cons item rest ih =>
      by_cases again : name item ∈ rest.map name
      · rw [latest_cons_of_mem name again, ih, List.map_cons, List.mem_cons]
        exact (or_iff_right_of_imp fun same => same ▸ again).symm
      · rw [latest_cons_of_notMem name again, List.map_cons, List.map_cons, List.mem_cons,
          List.mem_cons, ih]

theorem mem_of_mem_latest {item : α} : ∀ items : List α,
    item ∈ latest name items → item ∈ items := by
  intro items
  induction items with
  | nil => exact id
  | cons first rest ih =>
      intro member
      by_cases again : name first ∈ rest.map name
      · rw [latest_cons_of_mem name again] at member
        exact List.mem_cons_of_mem _ (ih member)
      · rw [latest_cons_of_notMem name again] at member
        rcases List.mem_cons.mp member with rfl | later
        · exact List.mem_cons_self
        · exact List.mem_cons_of_mem _ (ih later)

theorem map_latest {β : Type} (f : β → α) : ∀ items : List β,
    (latest (fun item => name (f item)) items).map f = latest name (items.map f) := by
  intro items
  induction items with
  | nil => rfl
  | cons item rest ih =>
      have same : (rest.map f).map name = rest.map fun item => name (f item) := List.map_map
      by_cases again : name (f item) ∈ (rest.map f).map name
      · rw [List.map_cons, latest_cons_of_mem name again, latest_cons_of_mem _ (same ▸ again), ih]
      · rw [List.map_cons, latest_cons_of_notMem name again,
          latest_cons_of_notMem _ (same ▸ again), List.map_cons, ih]

end Latest

theorem Closed.latest {equations : List Equation} (closed : Closed equations) :
    Closed (latest Equation.target equations) := by
  intro equation member name reference
  rw [targets, mem_map_latest]
  exact closed equation (mem_of_mem_latest _ _ member) name reference

/-! ## Passes with and without the other equations -/

/-- States in the middle of two passes that differ at most where the first is stale. -/
def AgreeUnlessStale (stored : List String) (ahead : List Equation) (one other : State) : Prop :=
  ∀ name, ¬ Stale stored ahead name → one.get? name = other.get? name

section Agree

variable {stored : List String} {equation : Equation} {rest : List Equation} {one other : State}
  (agree : AgreeUnlessStale stored (equation :: rest) one other) (points : PointSet)

include agree

theorem AgreeUnlessStale.get?_eq_of_ne {name : String} (different : name ≠ equation.target)
    (current : ¬ Stale (equation.target :: stored) rest name) :
    one.get? name = other.get? name := by
  refine agree name fun stale => current ⟨List.mem_cons_of_mem _ stale.1, ?_⟩
  exact (List.mem_cons.mp stale.2).resolve_left different

/-- The first pass stores a value that will be overwritten, the second does not. -/
theorem AgreeUnlessStale.put_left (again : equation.target ∈ targets rest) :
    AgreeUnlessStale (equation.target :: stored) rest (one.put equation.target points) other := by
  intro name current
  have different : name ≠ equation.target := by
    rintro rfl
    exact current ⟨List.mem_cons_self, again⟩
  rw [State.get?_put_ne _ _ _ _ different]
  exact agree.get?_eq_of_ne different current

theorem AgreeUnlessStale.put :
    AgreeUnlessStale (equation.target :: stored) rest (one.put equation.target points)
      (other.put equation.target points) := by
  intro name current
  by_cases here : name = equation.target
  · rw [here, State.get?_put_self, State.get?_put_self]
  · rw [State.get?_put_ne _ _ _ _ here, State.get?_put_ne _ _ _ _ here]
    exact agree.get?_eq_of_ne here current

end Agree

theorem stores_latest {scheme : Scheme} {start begun : State} (same : start.Alike begun) :
    ∀ (equations : List Equation) (stored : List String) (soFar kept next : State),
      (scheme = .inPlace → OverwrittenUnread stored equations) →
        AgreeUnlessStale stored equations soFar kept →
          stores scheme start equations soFar = .ok next →
            ∃ reached, stores scheme begun (latest Equation.target equations) kept = .ok reached ∧
              next.Alike reached := by
  intro equations
  induction equations with
  | nil =>
      intro stored soFar kept next _ agree made
      cases made
      exact ⟨kept, rfl, fun name => agree name fun stale => List.not_mem_nil stale.2⟩
  | cons equation rest ih =>
      intro stored soFar kept next unread agree made
      obtain ⟨points, value, later⟩ := stores_cons_eq_ok.mp made
      have onwards := fun scheme => (unread scheme).2
      by_cases again : equation.target ∈ targets rest
      · rw [latest_cons_of_mem Equation.target again]
        exact ih (equation.target :: stored) _ kept next onwards (agree.put_left points again) later
      · have read : evaluate (scheme.view begun kept) equation.value = .ok points := by
          rw [← value]
          refine evaluate_congr equation.value fun name reference => ?_
          cases scheme with
          | inPlace => exact (agree name ((unread rfl).1 again name reference)).symm
          | jacobi => exact (same name).symm
        obtain ⟨reached, stores, alike⟩ := ih (equation.target :: stored) _
          (kept.put equation.target points) next onwards (agree.put points) later
        rw [latest_cons_of_notMem Equation.target again]
        exact ⟨reached, stores_cons_eq_ok.mpr ⟨points, read, stores⟩, alike⟩

theorem stateAfter_latest {scheme : Scheme} {equations : List Equation} (closed : Closed equations)
    (unread : scheme = .inPlace → OverwrittenUnread [] equations) (passes : Nat) :
    (stateAfter scheme equations passes).Alike
      (stateAfter scheme (latest Equation.target equations) passes) := by
  have same := fun name => (mem_map_latest Equation.target name equations).symm
  refine stateAfter_alike closed closed.latest same (fun one other next alike made => ?_) passes
  exact stores_latest alike equations [] one other next unread (fun name _ => alike name) made

end Reaching.Solver

namespace Reaching.Source

open Solver (Scheme Closed Returns SameOutcome OverwrittenUnread latest)

def Document.latest (document : Document) : Document :=
  Solver.latest (fun equation => equation.target.text) document

theorem Document.system_latest (document : Document) :
    document.latest.system = Solver.latest Solver.Equation.target document.system :=
  Solver.map_latest Solver.Equation.target _ document

theorem last_equation_wins (document : Document) (closed : Closed document.system)
    (scheme : Scheme) (unread : scheme = .inPlace → OverwrittenUnread [] document.system) :
    ∃ one other, Returns scheme document.system one ∧
      Returns scheme document.latest.system other ∧ SameOutcome one other := by
  obtain ⟨last, _, settles⟩ :=
    Solver.exists_settlesAt closed (constantSubtrahends_system document) scheme
  have returns := Solver.returns_iff_settlesAt.mpr ⟨closed, last, settles, rfl⟩
  obtain ⟨other, returned, same⟩ := Solver.exists_returns_of_alike
    (Solver.stateAfter_latest closed unread) closed closed.latest returns
  rw [← Document.system_latest] at returned
  exact ⟨_, other, returns, returned, same⟩

def revised : Document :=
  [⟨⟨"L1", ⟨1, 1⟩⟩, .union (.operand (.point ⟨"L3", ⟨1, 6⟩⟩)) (.set [⟨"d9", ⟨1, 12⟩⟩])⟩,
    ⟨⟨"L2", ⟨2, 1⟩⟩, .difference (.operand (.point ⟨"L3", ⟨2, 6⟩⟩)) [⟨"d1", ⟨2, 12⟩⟩]⟩,
    ⟨⟨"L1", ⟨3, 1⟩⟩, .union (.operand (.set [⟨"d1", ⟨3, 7⟩⟩])) (.point ⟨"L2", ⟨3, 13⟩⟩)⟩,
    ⟨⟨"L3", ⟨4, 1⟩⟩, .union (.operand (.point ⟨"L1", ⟨4, 6⟩⟩)) (.set [⟨"d3", ⟨4, 12⟩⟩])⟩]

theorem last_equation_wins_revised :
    Closed revised.system ∧ OverwrittenUnread [] revised.system ∧
      ∃ one other, Returns .inPlace revised.system one ∧
        Returns .inPlace revised.latest.system other ∧ SameOutcome one other := by
  have closed : Closed revised.system := by decide
  have unread : OverwrittenUnread [] revised.system := by decide
  exact ⟨closed, unread, last_equation_wins revised closed .inPlace fun _ => unread⟩

def interposed : Document :=
  [⟨⟨"L1", ⟨1, 1⟩⟩, .operand (.set [⟨"d1", ⟨1, 7⟩⟩])⟩,
    ⟨⟨"L2", ⟨2, 1⟩⟩, .operand (.point ⟨"L1", ⟨2, 6⟩⟩)⟩,
    ⟨⟨"L1", ⟨3, 1⟩⟩, .operand (.set [⟨"d2", ⟨3, 7⟩⟩])⟩]

/-- In place, `L2` has what the first equation for `L1` has stored, though `L1` itself has only what
the last gives it. -/
def outdated : Solver.State :=
  .ofList [("L1", .singleton "d2"), ("L2", .singleton "d1")]

def begun : Solver.State := .ofList [("L2", ∅), ("L1", .singleton "d2")]

def current : Solver.State := .ofList [("L2", .singleton "d2"), ("L1", .singleton "d2")]

theorem overwritten_value_is_read :
    Document.ofText? ⟨false, true⟩ "L1 = {d1}\nL2 = L1\nL1 = {d2}" = .ok interposed ∧
      Closed interposed.system ∧
        Returns .inPlace interposed.system ⟨1, 2, outdated, [outdated, outdated]⟩ ∧
        Returns .inPlace interposed.latest.system ⟨2, 3, current, [begun, current, current]⟩ ∧
          ¬ outdated.Alike current := by
  have read : Document.ofText? ⟨false, true⟩ "L1 = {d1}\nL2 = L1\nL1 = {d2}" = .ok interposed := by
    decide +kernel
  have closed : Closed interposed.system := by decide
  have whole : Returns .inPlace interposed.system ⟨1, 2, outdated, [outdated, outdated]⟩ :=
    Solver.returns_iff_solve.mpr (by decide +kernel)
  have kept : Returns .inPlace interposed.latest.system
      ⟨2, 3, current, [begun, current, current]⟩ :=
    Solver.returns_iff_solve.mpr (by decide +kernel)
  refine ⟨read, closed, whole, kept, fun alike => ?_⟩
  have different : outdated.get? "L2" ≠ current.get? "L2" := by decide
  exact different (alike "L2")

end Reaching.Source
