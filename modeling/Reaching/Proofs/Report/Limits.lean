import Reaching.Proofs.Report.Listing
import Reaching.Report.Record

/-! # Which states can be listed

To list a state its names are put in order, and that fails if one of them is not short.  So a state
can be listed exactly if all its names are (`exists_rows_iff`), and with it every state of the same
data points that has no other points (`Listable.of_part`).

`shownRows` are the rows of a state that can be listed, and the texts and records of a report are made
of them (`Listable.iterationText?_eq`, `recordText?_of_listable`). -/
set_option autoImplicit false

namespace Reaching.Report

open Calls (bind_eq_ok forall_of_mapM mapM_of_ok)
open Solver (State)
open Text (Overlong)

/-! ## Names that are put in order -/

theorem short_of_key {name : String} {key : NameKey} (read : NameKey.ofName? name = .ok key) :
    Short name := by
  rw [NameKey.ofName?] at read
  split at read
  · rename_i none
    rw [Short, none]
    exact Nat.zero_le _
  · by_contra long
    have many : ¬ (NameKey.suffix name).length ≤ Text.digitLimit := long
    rw [Text.decimal?, if_neg many] at read
    cases read

theorem short_of_sortedNames {names sorted : List String} (called : sortedNames? names = .ok sorted) :
    ∀ name ∈ names, Short name := by
  obtain ⟨keys, mapped, _⟩ := bind_eq_ok.mp called
  exact forall_of_mapM (fun _ _ => short_of_key) mapped

/-! ## States that are listed -/

structure Listable (state : State) : Prop where
  names : ∀ name ∈ state.names, Short name
  points : ∀ name ∈ state.names, ∀ d ∈ state.points name, Short d

theorem Listable.of_rows {state : State} {rows : List Row} (called : rows? state = .ok rows) :
    Listable state := by
  obtain ⟨sorted, ordered, listed⟩ := bind_eq_ok.mp called
  have short := short_of_sortedNames ordered
  obtain ⟨others, again, permuted⟩ := exists_sortedNames short
  cases ordered.symm.trans again
  refine ⟨short, fun name member => ?_⟩
  refine forall_of_mapM (p := fun name => ∀ d ∈ state.points name, Short d) ?_ listed name
    (permuted.mem_iff.mpr member)
  intro name row called
  obtain ⟨points, ordered, _⟩ := bind_eq_ok.mp called
  exact short_of_sortedNames ordered

theorem exists_rows_iff {state : State} : (∃ rows, rows? state = .ok rows) ↔ Listable state := by
  constructor
  · rintro ⟨rows, called⟩
    exact .of_rows called
  · intro listable
    obtain ⟨rows, called, _⟩ := exists_rows listable.names listable.points
    exact ⟨rows, called⟩

theorem Listable.of_part {part whole : State} (listable : Listable whole)
    (names : part.names = whole.names) (points : ∀ name, part.points name ⊆ whole.points name) :
    Listable part where
  names := names ▸ listable.names
  points name member d present := listable.points name (names ▸ member) d (points name d present)

def shownRows (state : State) : List Row := (rows? state).toOption.getD []

namespace Listable

variable {state : State} (listable : Listable state)

include listable

theorem rows?_eq : rows? state = .ok (shownRows state) := by
  obtain ⟨rows, called⟩ := exists_rows_iff.mpr listable
  rw [shownRows, called]
  rfl

theorem shown : Shown state (shownRows state) := by
  obtain ⟨rows, called, shown⟩ := exists_rows listable.names listable.points
  rw [shownRows, called]
  exact shown

theorem solutionText?_eq : solutionText? state = .ok (listing (shownRows state)) := by
  rw [solutionText?, listable.rows?_eq]
  rfl

theorem iterationText?_eq (number : Int) : iterationText? number state =
    .ok ("Iteration " ++ toString number ++ "\n" ++ listing (shownRows state)) := by
  rw [iterationText?, listable.solutionText?_eq]
  rfl

theorem stateValue?_eq : stateValue? state = .ok (.object ((shownRows state).map Row.member)) := by
  rw [stateValue?, listable.rows?_eq]
  rfl

end Listable

def shownRecord (iterations passes : Int) (solution : State) (snapshots : List State) : Json.Value :=
  let counts := [("iterations", .int iterations), ("passes", .int passes),
    ("solution", .object ((shownRows solution).map Row.member))]
  let kept := snapshots.map fun state => .object ((shownRows state).map Row.member)
  .object (if kept.isEmpty then counts else counts ++ [("snapshots", .array kept)])

theorem recordText?_of_listable (iterations passes : Int) {solution : State} {snapshots : List State}
    (listable : Listable solution) (all : ∀ state ∈ snapshots, Listable state) :
    recordText? iterations passes solution snapshots =
      .ok ((shownRecord iterations passes solution snapshots).print (.indented 2)) := by
  have kept := mapM_of_ok fun state member => (all state member).stateValue?_eq
  rw [recordText?, record?, listable.stateValue?_eq, kept]
  rfl

end Reaching.Report
