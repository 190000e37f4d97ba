import Reaching.Proofs.Json.ReadBack
import Reaching.Proofs.Report.NameOrder

/-! # Records lose nothing

The record of a run is an object that holds the two counts, the rows of the solution and, if states
were kept, the rows of each (`Records`).  The rows of a state list each data point once and with it
each of its points once, both in the order of names (`Lists`), so they determine what the state holds
(`Lists.alike`).  The text of a record is read as the object that was written, and so two results that
have one text are the same but for the order in which their states were stored.

Main fact: `record_loses_nothing`. -/
set_option autoImplicit false

namespace Reaching.Report

open Calls (bind_eq_ok forall_of_mapM forall_values_of_mapM mapM_eq_ok_iff)
open Json (Value)
open Solver (State)
open Text (digitLimit)

/-! ## Rows -/

/-- The rows list each data point of a state once, with each of its points once, both in the order of
names. -/
structure Lists (state : State) (rows : List Row) : Prop where
  nodup : (rows.map Row.name).Nodup
  names : ∀ name, name ∈ rows.map Row.name ↔ name ∈ state.names
  ascending : (rows.map Row.name).Pairwise Precedes
  distinct : ∀ row ∈ rows, row.points.Nodup
  points : ∀ row ∈ rows, ∀ d, d ∈ row.points ↔ d ∈ state.points row.name
  sorted : ∀ row ∈ rows, sortedNames? (state.points row.name).names = .ok row.points

theorem row?_eq_ok_iff {state : State} {name : String} {row : Row} :
    row? state name = .ok row ↔
      name = row.name ∧ sortedNames? (state.points row.name).names = .ok row.points := by
  rw [row?, bind_eq_ok]
  constructor
  · rintro ⟨points, called, done⟩
    cases done
    exact ⟨rfl, called⟩
  · rintro ⟨rfl, called⟩
    exact ⟨row.points, called, rfl⟩

theorem lists_of_rows {state : State} {rows : List Row} (called : rows? state = .ok rows) :
    Lists state rows := by
  obtain ⟨sorted, ordered, listed⟩ := bind_eq_ok.mp called
  have each : ∀ row ∈ rows, sortedNames? (state.points row.name).names = .ok row.points :=
    forall_values_of_mapM (fun _ _ found => (row?_eq_ok_iff.mp found).2) listed
  have named := (mapM_eq_ok_iff.mp listed).imp fun _ _ found => (row?_eq_ok_iff.mp found).1
  have same : sorted = rows.map Row.name :=
    List.forall₂_eq_eq_eq ▸ List.forall₂_map_right_iff.mpr named
  subst same
  have permuted := perm_of_sortedNames ordered
  refine ⟨permuted.nodup_iff.mpr state.nodup, fun _ => permuted.mem_iff, pairwise_precedes ordered,
    ?_, ?_, each⟩
  · intro row member
    exact (perm_of_sortedNames (each row member)).nodup_iff.mpr
      (Solver.PointSet.nodup_names _)
  · intro row member d
    exact (perm_of_sortedNames (each row member)).mem_iff

theorem Lists.alike {one other : State} {rows : List Row} (first : Lists one rows)
    (second : Lists other rows) : one.Alike other := by
  have names : ∀ name, name ∈ one.names ↔ name ∈ other.names := fun name =>
    (first.names name).symm.trans (second.names name)
  refine .of_held names fun d => Set.ext fun name => ?_
  rw [State.mem_held, State.mem_held]
  by_cases present : name ∈ one.names
  · obtain ⟨row, member, rfl⟩ := List.mem_map.mp ((first.names name).mpr present)
    exact (first.points row member d).symm.trans (second.points row member d)
  · rw [State.points_of_notMem present, State.points_of_notMem fun there => present ((names _).mpr there)]

/-! ## Records -/

/-- The value is the record of a result: its counts, the rows of its solution and, if there are any
snapshots, the rows of each in their order. -/
def Records (iterations passes : Int) (solution : State) (snapshots : List State) (value : Value) :
    Prop :=
  ∃ rows kept, Lists solution rows ∧ List.Forall₂ Lists snapshots kept ∧
    value = .object ([("iterations", .int iterations), ("passes", .int passes),
        ("solution", .object (rows.map Row.member))] ++
      if snapshots = [] then [] else
        [("snapshots", .array (kept.map fun rows => .object (rows.map Row.member)))])

section Written

variable {iterations passes : Int} {solution : State} {snapshots : List State}

theorem listable_of_stateValue {state : State} {value : Value} (made : stateValue? state = .ok value) :
    Listable state := by
  obtain ⟨rows, called, _⟩ := bind_eq_ok.mp made
  exact .of_rows called

theorem listable_of_recordText {text : String}
    (written : recordText? iterations passes solution snapshots = .ok text) :
    Listable solution ∧ ∀ state ∈ snapshots, Listable state := by
  obtain ⟨value, made, _⟩ := bind_eq_ok.mp written
  obtain ⟨state, solved, more⟩ := bind_eq_ok.mp made
  obtain ⟨kept, mapped, _⟩ := bind_eq_ok.mp more
  exact ⟨listable_of_stateValue solved, forall_of_mapM (fun _ _ => listable_of_stateValue) mapped⟩

theorem Listable.lists {state : State} (listable : Listable state) : Lists state (shownRows state) :=
  lists_of_rows listable.rows?_eq

theorem records_shownRecord (listable : Listable solution) (all : ∀ state ∈ snapshots, Listable state) :
    Records iterations passes solution snapshots
      (shownRecord iterations passes solution snapshots) := by
  refine ⟨shownRows solution, snapshots.map shownRows, listable.lists, ?_, ?_⟩
  · exact List.forall₂_map_right_iff.mpr (List.forall₂_same.mpr fun state member =>
      (all state member).lists)
  · cases snapshots with
    | nil => rfl
    | cons first rest => simp [shownRecord]

/-- What is written is read as the record of the result. -/
theorem exists_record {text : String}
    (written : recordText? iterations passes solution snapshots = .ok text) :
    ∃ value, Value.read? text = some value ∧ Records iterations passes solution snapshots value := by
  obtain ⟨listable, all⟩ := listable_of_recordText written
  cases (recordText?_of_listable iterations passes listable all).symm.trans written
  exact ⟨_, Json.read?_print (Json.Layout.plain_indented 2) _, records_shownRecord listable all⟩

end Written

/-! ## What a record determines -/

theorem strings_injective : Function.Injective Value.strings := fun _ _ same =>
  List.map_injective_iff.mpr (fun _ _ => Value.string.inj) (Value.array.inj same)

theorem member_injective : Function.Injective Row.member := by
  rintro ⟨name, points⟩ ⟨other, others⟩ same
  obtain ⟨rfl, equal⟩ := Prod.ext_iff.mp same
  obtain rfl : points = others := strings_injective equal
  rfl

theorem rowsValue_injective :
    Function.Injective fun rows : List Row => Value.object (rows.map Row.member) := fun _ _ same =>
  List.map_injective_iff.mpr member_injective (Value.object.inj same)

theorem forall₂_alike {kept left : List State} {blocks : List (List Row)}
    (first : List.Forall₂ Lists kept blocks) (second : List.Forall₂ Lists left blocks) :
    List.Forall₂ State.Alike kept left := by
  induction first generalizing left with
  | nil =>
      cases second
      exact .nil
  | cons lists _ ih =>
      cases second with
      | cons same more => exact .cons (lists.alike same) (ih more)

/-- The same result, but for the order in which its states were stored. -/
theorem Records.alike {iterations passes further others : Int} {one other : State}
    {kept left : List State} {value : Value} (first : Records iterations passes one kept value)
    (second : Records further others other left value) :
    iterations = further ∧ passes = others ∧ one.Alike other ∧ List.Forall₂ State.Alike kept left := by
  obtain ⟨rows, blocks, solution, snapshots, rfl⟩ := first
  obtain ⟨lines, groups, solved, states, same⟩ := second
  simp only [Value.object.injEq, List.cons_append, List.nil_append, List.cons.injEq, Prod.mk.injEq,
    Value.int.injEq, true_and] at same
  obtain ⟨iterated, passed, listed, traced⟩ := same
  obtain rfl : rows = lines := rowsValue_injective (congrArg Value.object listed)
  refine ⟨iterated, passed, solution.alike solved, ?_⟩
  by_cases none : kept = []
  · by_cases nothing : left = []
    · rw [none, nothing]
      exact .nil
    · rw [if_pos none, if_neg nothing] at traced
      cases traced
  · by_cases nothing : left = []
    · rw [if_neg none, if_pos nothing] at traced
      cases traced
    · rw [if_neg none, if_neg nothing] at traced
      simp only [List.cons.injEq, Prod.mk.injEq, Value.array.injEq, true_and, and_true] at traced
      obtain rfl : blocks = groups := List.map_injective_iff.mpr rowsValue_injective traced
      exact forall₂_alike snapshots states

structure Reportable (iterations passes : Int) (solution : State) (snapshots : List State) : Prop where
  iterations : iterations.natAbs < Nat.pow 10 digitLimit
  passes : passes.natAbs < Nat.pow 10 digitLimit
  solution : Listable solution
  snapshots : ∀ state ∈ snapshots, Listable state

theorem record_loses_nothing :
    (∀ (iterations passes : Int) (solution : State) (snapshots : List State),
      Reportable iterations passes solution snapshots →
        ∃ text value, recordText? iterations passes solution snapshots = .ok text ∧
          Value.read? text = some value ∧ Records iterations passes solution snapshots value) ∧
    ∀ (iterations passes further others : Int) (one other : State) (kept left : List State)
      (text : String), recordText? iterations passes one kept = .ok text →
        recordText? further others other left = .ok text →
          iterations = further ∧ passes = others ∧ one.Alike other ∧
            List.Forall₂ State.Alike kept left := by
  constructor
  · intro iterations passes solution snapshots reportable
    have written := recordText?_of_listable iterations passes reportable.solution reportable.snapshots
    obtain ⟨value, read, records⟩ := exists_record written
    exact ⟨_, value, written, read, records⟩
  · intro iterations passes further others one other kept left text written again
    obtain ⟨value, read, records⟩ := exists_record written
    obtain ⟨found, reread, also⟩ := exists_record again
    obtain rfl : value = found := Option.some.inj (read.symm.trans reread)
    exact records.alike also

/-- A quote, a backslash, a control character and a character that is written as two surrogates. -/
def scrawled : State := .ofList [("L2\"\\", .ofList ["\x01d", "😀10", "😀9"]), ("", ∅)]

theorem record_loses_nothing_scrawled :
    Reportable 1 (-2) scrawled [scrawled, ∅] ∧
      (∃ text value, recordText? 1 (-2) scrawled [scrawled, ∅] = .ok text ∧
        Value.read? text = some value ∧ Records 1 (-2) scrawled [scrawled, ∅] value) ∧
      recordText? 1 2 scrawled [] ≠ recordText? 1 2 scrawled [∅] := by
  obtain ⟨decoded, determined⟩ := record_loses_nothing
  have listable : Listable scrawled := ⟨by decide +kernel, by decide +kernel⟩
  have all : ∀ state ∈ [scrawled, ∅], Listable state :=
    List.forall_mem_cons.mpr ⟨listable, List.forall_mem_singleton.mpr ⟨nofun, nofun⟩⟩
  have reportable : Reportable 1 (-2) scrawled [scrawled, ∅] :=
    ⟨by decide +kernel, by decide +kernel, listable, all⟩
  refine ⟨reportable, decoded _ _ _ _ reportable, fun same => ?_⟩
  have bare : Reportable 1 2 scrawled [] := ⟨by decide +kernel, by decide +kernel, listable, nofun⟩
  obtain ⟨text, _, written, _⟩ := decoded 1 2 scrawled [] bare
  cases (determined _ _ _ _ _ _ _ _ _ written (same ▸ written)).2.2.2

end Reaching.Report
