import Reaching.Proofs.Command.Success
import Reaching.Proofs.Json.ReadBack

/-! # Text and JSON reports describe the same run

The record of a traced run can be decoded, and the rows that it holds (`rowsIn?`) are those of the
states after each pass and of the solution.  A text report of the same run shows the same rows in the
same order: a block for each state, then the solution, then the counts that the record gives, each
row written as a name with its points in braces (`spelled`).

Main fact: `reports_agree`. -/
set_option autoImplicit false

namespace Reaching.Command

open Calls (mapM_map_eq_some)
open Files (Workspace)
open Json (Value)
open Report (Listable Row Shown shownRecord shownRows)
open Settings (Reader)
open Solver (Returns State targets)
open Source (Document)

/-! ## Rows of a decoded record -/

def textIn? : Value → Option String
  | .string text => some text
  | _ => none

def rowIn? : String × Value → Option Row
  | (name, .array points) => (points.mapM textIn?).map (Row.mk name)
  | _ => none

def rowsIn? : Value → Option (List Row)
  | .object members => members.mapM rowIn?
  | _ => none

theorem rowIn?_member (row : Row) : rowIn? row.member = some row := by
  have points := mapM_map_eq_some textIn? Value.string (fun _ => rfl) row.points
  rw [Row.member, Value.strings, rowIn?, points]
  rfl

theorem rowsIn?_members (rows : List Row) : rowsIn? (.object (rows.map Row.member)) = some rows :=
  mapM_map_eq_some rowIn? Row.member rowIn?_member rows

/-- What a record says of a run: its counts, the rows of its solution, and those of the states after
each of its passes, the last of which are those of the solution. -/
structure RecordOf (value : Value) (iterations passes : Nat) (solution : List Row)
    (blocks : List (List Row)) : Prop where
  iterated : value.get? "iterations" = some (.int iterations)
  passed : value.get? "passes" = some (.int passes)
  solved : ∃ state, value.get? "solution" = some state ∧ rowsIn? state = some solution
  kept : ∃ states, value.get? "snapshots" = some (.array states) ∧ states.length = passes ∧
    states.mapM rowsIn? = some blocks
  count : blocks.length = passes
  final : blocks.getLast? = some solution

theorem shownRecord_of_traced (iterations passes : Int) (solution : State) {snapshots : List State}
    (traced : snapshots ≠ []) :
    shownRecord iterations passes solution snapshots =
      .object [("iterations", .int iterations), ("passes", .int passes),
        ("solution", .object ((shownRows solution).map Row.member)),
        ("snapshots", .array (snapshots.map fun state =>
          .object ((shownRows state).map Row.member)))] := by
  simp [shownRecord, traced]

theorem recordOf_shownRecord {iterations passes : Nat} {solution : State} {snapshots : List State}
    (length : snapshots.length = passes) (final : snapshots.getLast? = some solution) :
    RecordOf (shownRecord iterations passes solution snapshots) iterations passes
      (shownRows solution) (snapshots.map shownRows) := by
  have traced : snapshots ≠ [] := by
    rintro rfl
    cases final
  rw [shownRecord_of_traced _ _ _ traced]
  constructor
  · rfl
  · rfl
  · exact ⟨_, rfl, rowsIn?_members _⟩
  · refine ⟨_, rfl, ?_, ?_⟩
    · rw [List.length_map, length]
    · have rows := mapM_map_eq_some rowsIn? _ rowsIn?_members (snapshots.map shownRows)
      rw [List.map_map] at rows
      exact rows
  · rw [List.length_map, length]
  · rw [List.getLast?_map, final]
    rfl

/-! ## The two reports -/

def SolveOptions.tracedIn (options : SolveOptions) (format : Settings.Format) : SolveOptions :=
  { options with trace := true, format := some format, output := .stream }

/-- The lines that show a state: of each row the name, a colon, and the points between braces. -/
def spelled (rows : List Row) : String :=
  "\n".intercalate (rows.map fun row =>
    row.name ++ ": \x7b" ++ ", ".intercalate row.points ++ "\x7d")

def blocksText (blocks : List (List Row)) : String :=
  String.join (blocks.zipIdx.map fun entry =>
    "Iteration " ++ toString (entry.2 + 1) ++ "\n" ++ spelled entry.1 ++ "\n\n")

def endText (iterations passes : Nat) (rows : List Row) : String :=
  spelled rows ++ "\nConverged after " ++ toString iterations ++ " iteration(s) (" ++
    toString passes ++ " passes)\n"

theorem spelled_eq (rows : List Row) : spelled rows = Report.listing rows := rfl

theorem traceText_eq (settings : Settings) (traced : settings.trace = true)
    (shown : settings.format = .text) (snapshots : List State) :
    traceText settings snapshots = blocksText (snapshots.map shownRows) := by
  rw [traceText, traced, shown, blocksText, List.zipIdx_map, List.map_map]
  simp only [spelled_eq]
  rfl

theorem endText_eq (iterations passes : Nat) (rows : List Row) :
    endText iterations passes rows = closingText iterations passes rows ++ "\n" := by
  simp only [endText, closingText, spelled_eq, String.append_assoc]
  rfl

variable {δ : Type} [Settings.Data δ] {reader : Reader δ} {workspace : Workspace} {input : Input}
  {given : Settings} {document : Document} {result : Solver.Result}

theorem perform_text (options : SolveOptions)
    (begun : (reading reader workspace input).result = .ok (given, document))
    (returns : Returns (options.override given).scheme document.system result)
    (listable : Listable result.solution) (verbose : Bool) :
    ∃ outcome, Request.perform reader workspace ⟨verbose, .solve input (options.tracedIn .text)⟩ =
      .ok outcome ∧ outcome.exit = 0 ∧
        outcome.stdout = treeText (options.override given) document ++
          blocksText (result.snapshots.map shownRows) ++
            endText result.iterations result.passes (shownRows result.solution) := by
  obtain ⟨outcome, ran, exit, stdout⟩ :=
    perform_stream (options.tracedIn .text) rfl begun returns listable verbose
  rw [traceText_eq _ rfl rfl] at stdout
  refine ⟨outcome, ran, exit, ?_⟩
  rw [endText_eq]
  exact stdout

theorem perform_json (options : SolveOptions)
    (begun : (reading reader workspace input).result = .ok (given, document))
    (returns : Returns (options.override given).scheme document.system result)
    (listable : Listable result.solution) (verbose : Bool) :
    ∃ outcome, Request.perform reader workspace ⟨verbose, .solve input (options.tracedIn .json)⟩ =
      .ok outcome ∧ outcome.exit = 0 ∧
        outcome.stdout = treeText (options.override given) document ++
          ((shownRecord result.iterations result.passes result.solution result.snapshots).print
            (.indented 2) ++ "\n") := by
  obtain ⟨outcome, ran, exit, stdout⟩ :=
    perform_stream (options.tracedIn .json) rfl begun returns listable verbose
  have untraced : traceText ((options.tracedIn .json).override given) result.snapshots = "" := rfl
  rw [untraced, String.append_empty] at stdout
  exact ⟨outcome, ran, exit, stdout⟩

structure ListsOnce (document : Document) (rows : List Row) : Prop where
  nodup : (rows.map Row.name).Nodup
  names : ∀ name, name ∈ rows.map Row.name ↔ ∃ equation ∈ document, equation.target.text = name

/-- Two reports of one run, after the tree if that is shown: a text report and the record. -/
structure Agree (front : String) (document : Document) (result : Solver.Result)
    (text json : Outcome) : Prop where
  told : text.exit = 0
  recorded : json.exit = 0
  same : ∃ written value solution blocks,
    json.stdout = front ++ (written ++ "\n") ∧ Value.read? written = some value ∧
    RecordOf value result.iterations result.passes solution blocks ∧
    text.stdout = front ++ blocksText blocks ++
      endText result.iterations result.passes solution ∧
    List.Forall₂ Shown result.snapshots blocks ∧ ∀ rows ∈ blocks, ListsOnce document rows

theorem reports_agree (reader : Reader δ) (workspace : Workspace) (input : Input)
    (options : SolveOptions) (verbose : Bool) (outcome : Outcome)
    (ran : Request.perform reader workspace ⟨verbose, .solve input options⟩ = .ok outcome)
    (success : outcome.exit = 0) :
    ∃ given document result text json,
      (reading reader workspace input).result = .ok (given, document) ∧
      Returns (options.override given).scheme document.system result ∧
      Request.perform reader workspace ⟨verbose, .solve input (options.tracedIn .text)⟩ = .ok text ∧
      Request.perform reader workspace ⟨verbose, .solve input (options.tracedIn .json)⟩ = .ok json ∧
      Agree (treeText (options.override given) document) document result text json := by
  obtain ⟨given, document, result, begun, returns, listable⟩ :=
    exists_result_of_success ran success
  obtain ⟨text, told, exit, stdout⟩ := perform_text options begun returns listable verbose
  obtain ⟨json, recorded, ends, printed⟩ := perform_json options begun returns listable verbose
  have kept := Solver.recorded_of_returns (Source.constantSubtrahends_system document) returns
  have all := listable_snapshots returns listable
  refine ⟨given, document, result, text, json, begun, returns, told, recorded, exit, ends, _, _, _,
    _, printed, Json.read?_print (Json.Layout.plain_indented 2) _,
    recordOf_shownRecord kept.length kept.final, stdout, ?_, ?_⟩
  · exact List.forall₂_map_right_iff.mpr (List.forall₂_same.mpr fun state member =>
      (all state member).shown)
  · intro rows member
    obtain ⟨state, among, rfl⟩ := List.mem_map.mp member
    have names := (all state among).shown.names
    refine ⟨names.nodup_iff.mpr state.nodup, fun name => ?_⟩
    rw [names.mem_iff, kept.names state among, Solver.mem_names_of_returns returns,
      Source.targets_system, List.mem_map]

def ringText : String :=
  "Iteration 1\nL1: \x7bd1\x7d\nL2: \x7bd1\x7d\n\n" ++
    "Iteration 2\nL1: \x7bd1\x7d\nL2: \x7bd1\x7d\n\n" ++
    "L1: \x7bd1\x7d\nL2: \x7bd1\x7d\nConverged after 1 iteration(s) (2 passes)\n"

theorem shownRows_ring : shownRows ringState = [⟨"L1", ["d1"]⟩, ⟨"L2", ["d1"]⟩] := by
  cbv

theorem texts_ring : blocksText ([ringState, ringState].map shownRows) ++
    endText 1 2 (shownRows ringState) = ringText := by
  rw [List.map_cons, List.map_cons, List.map_nil, shownRows_ring]
  decide +kernel

theorem reports_agree_shelved :
    ∃ outcome text json,
      Request.perform yamlReader shelf ⟨false, .solve ⟨"ring.eq", none, true⟩ { tree := true }⟩ =
        .ok outcome ∧
      outcome.exit = 0 ∧
      Request.perform yamlReader shelf ⟨false, .solve ⟨"ring.eq", none, true⟩
        { trace := true, tree := true, format := some .text }⟩ = .ok text ∧
      Request.perform yamlReader shelf ⟨false, .solve ⟨"ring.eq", none, true⟩
        { trace := true, tree := true, format := some .json }⟩ = .ok json ∧
      text.stdout = ring.toNode.simplify.outline 4 ++ "\n\n" ++ ringText ∧
      Agree (ring.toNode.simplify.outline 4 ++ "\n\n") ring
        ⟨1, 2, ringState, [ringState, ringState]⟩ text json := by
  obtain ⟨outcome, ran, success, _⟩ := perform_stream { tree := true } rfl reading_ring returns_ring
    listable_ring false
  obtain ⟨given, document, result, text, json, begun, returns, told, recorded, agree⟩ :=
    reports_agree yamlReader shelf ⟨"ring.eq", none, true⟩ { tree := true } false outcome ran success
  cases reading_ring.symm.trans begun
  cases returns_ring.unique returns
  refine ⟨outcome, text, json, ran, success, told, recorded, ?_, agree⟩
  obtain ⟨other, again, _, stdout⟩ :=
    perform_text { tree := true } reading_ring returns_ring listable_ring false
  cases told.symm.trans again
  rw [stdout, ← texts_ring, ← String.append_assoc]
  rfl

end Reaching.Command
