import Reaching.Proofs.Command.Opening
import Reaching.Proofs.Report.Limits
import Reaching.Proofs.Solver.Snapshots

/-! # What is reported of a document

A document is reported if its system has a result and the solution can be listed; then every state
that the run has kept can be listed too, so no pass fails to be shown before the end is reached
(`report_eq`).  What is printed on the way is the tree and, of a text trace, one block for each pass
(`printed_reportDeeds`).

A report that fails has met a data point that is undefined or a name that is too long to be listed, and
in either case it has left all files as they are (`report_confined`). -/
set_option autoImplicit false

namespace Reaching.Command

open Calls (bind_eq_ok)
open Files (Workspace)
open Report (Listable Row listing shownRows shownRecord)
open Settings (Reader)
open Solver (Returns Scheme State)
open Source (Document)

def Deed.KeepsFiles : Deed → Prop
  | .write _ _ => False
  | _ => True

theorem Deed.IsDetail.keepsFiles {deed : Deed} (detail : deed.IsDetail) : deed.KeepsFiles := by
  cases deed with
  | write place content => exact detail
  | _ => trivial

/-! ## The texts of a report -/

def treeText (settings : Settings) (document : Document) : String :=
  if settings.showTree then document.toNode.simplify.outline 4 ++ "\n\n" else ""

def iterationBlock (number : Nat) (rows : List Row) : String :=
  "Iteration " ++ toString number ++ "\n" ++ listing rows

def traceText (settings : Settings) (snapshots : List State) : String :=
  if settings.trace && settings.format = .text then
    String.join (snapshots.zipIdx.map fun entry =>
      iterationBlock (entry.2 + 1) (shownRows entry.1) ++ "\n\n")
  else ""

def closingText (iterations passes : Nat) (rows : List Row) : String :=
  listing rows ++ "\nConverged after " ++ toString iterations ++ " iteration(s) (" ++
    toString passes ++ " passes)"

def shownResult (settings : Settings) (result : Solver.Result) : String :=
  match settings.format with
  | .json => (shownRecord result.iterations result.passes result.solution
      (if settings.trace then result.snapshots else [])).print (.indented 2)
  | .text => closingText result.iterations result.passes (shownRows result.solution)

/-! ## What is done on the way -/

def passDeeds (settings : Settings) (count : Nat) (entry : State × Nat) : List Deed :=
  let number := entry.2 + 1
  let verdict := if number = count then "stable" else "changed"
  .log .debug solverLog
      ("Pass " ++ toString number ++ " (" ++ settings.scheme.name ++ "): " ++ verdict) ::
    if settings.trace && settings.format = .text then
      [.print (iterationBlock number (shownRows entry.1)), .print ""]
    else []

def solvingDeeds (settings : Settings) (equations : List Solver.Equation)
    (result : Solver.Result) : List Deed :=
  (Solver.repeated equations).flatMap
      (fun name => [.log .warning solverLog (Solver.repeatedWarning name)]) ++
    result.snapshots.zipIdx.flatMap (passDeeds settings result.passes) ++
    [.log .info solverLog ("Converged after " ++ toString result.iterations ++ " iteration(s), " ++
      toString result.passes ++ " pass(es), " ++ toString result.solution.entries.length ++
      " data points")]

variable {settings : Settings}

theorem reportPass_eq (count : Nat) {entry : State × Nat} (listable : Listable entry.1) :
    reportPass settings count entry = ⟨passDeeds settings count entry, .ok ()⟩ := by
  dsimp only [reportPass, passDeeds]
  by_cases traced : (settings.trace && settings.format = .text) = true
  · rw [if_pos traced, if_pos traced, listable.iterationText?_eq]
    rfl
  · rw [if_neg traced, if_neg traced]
    rfl

theorem warnings_eq (equations : List Solver.Equation) :
    Act.each (fun name => log .warning solverLog (Solver.repeatedWarning name))
      (Solver.repeated equations) =
      ⟨(Solver.repeated equations).flatMap
        (fun name => [.log .warning solverLog (Solver.repeatedWarning name)]), .ok ()⟩ :=
  Act.each_of_ok _ _ _ fun _ _ => rfl

theorem solveSystem_eq {equations : List Solver.Equation} {result : Solver.Result}
    (returns : Returns settings.scheme equations result)
    (all : ∀ state ∈ result.snapshots, Listable state) :
    solveSystem settings equations = ⟨solvingDeeds settings equations result, .ok result⟩ := by
  have passes := Act.each_of_ok (reportPass settings result.passes)
    (passDeeds settings result.passes) result.snapshots.zipIdx fun entry member =>
      reportPass_eq result.passes (all entry.1 (List.fst_mem_of_mem_zipIdx member))
  have solved : attempt .undefined (Solver.solve settings.scheme equations) =
      ⟨[], .ok (some result)⟩ := by
    rw [Solver.returns_iff_solve.mp returns]
    rfl
  rw [solveSystem, warnings_eq, solved, Act.bind_of_ok rfl, Act.bind_of_ok rfl]
  dsimp only
  rw [passes, Act.bind_of_ok rfl]
  refine Act.ext ?_ rfl
  rw [solvingDeeds, List.append_assoc]
  rfl

theorem resultText_eq {result : Solver.Result} (listable : Listable result.solution)
    (all : ∀ state ∈ result.snapshots, Listable state) :
    resultText settings result = .ok (shownResult settings result) := by
  rw [resultText, shownResult]
  cases settings.format with
  | text =>
      dsimp only
      rw [listable.solutionText?_eq]
      rfl
  | json =>
      dsimp only
      rw [Report.recordText?_of_listable result.iterations result.passes listable]
      intro state member
      split at member
      · exact all state member
      · exact absurd member List.not_mem_nil

def reportDeeds (settings : Settings) (document : Document) (result : Solver.Result) : List Deed :=
  (showTree settings document).deeds ++ solvingDeeds settings document.system result

theorem listable_snapshots {document : Document} {scheme : Scheme} {result : Solver.Result}
    (returns : Returns scheme document.system result) (listable : Listable result.solution) :
    ∀ state ∈ result.snapshots, Listable state := by
  have recorded := Solver.recorded_of_returns (Source.constantSubtrahends_system document) returns
  exact fun state member =>
    listable.of_part (recorded.names state member) (recorded.points state member)

theorem report_eq {document : Document} {result : Solver.Result}
    (returns : Returns settings.scheme document.system result) (listable : Listable result.solution) :
    report settings document =
      ⟨reportDeeds settings document result, .ok (shownResult settings result)⟩ := by
  have all := listable_snapshots returns listable
  rw [report, solveSystem_eq returns all, Act.bind_of_ok rfl, Act.bind_of_ok rfl,
    resultText_eq listable all]
  refine Act.ext ?_ rfl
  change _ ++ (_ ++ []) = _
  rw [List.append_nil, reportDeeds]

/-! ## What is printed on the way -/

theorem printed_flatMap {α : Type} (deeds : α → List Deed) (items : List α) :
    Outcome.printed (items.flatMap deeds) =
      String.join (items.map fun item => Outcome.printed (deeds item)) := by
  induction items with
  | nil => rfl
  | cons item rest ih =>
      rw [List.flatMap_cons, Outcome.printed_append, ih, List.map_cons, String.join_cons]

theorem join_map_empty {α : Type} (items : List α) : String.join (items.map fun _ => "") = "" := by
  induction items with
  | nil => rfl
  | cons item rest ih => rw [List.map_cons, String.join_cons, ih, String.empty_append]

theorem printed_passDeeds (count : Nat) (entry : State × Nat) :
    Outcome.printed (passDeeds settings count entry) =
      if settings.trace && settings.format = .text then
        iterationBlock (entry.2 + 1) (shownRows entry.1) ++ "\n\n"
      else "" := by
  dsimp only [passDeeds]
  by_cases traced : (settings.trace && settings.format = .text) = true
  · rw [if_pos traced, if_pos traced]
    simp [Outcome.printed, Outcome.stdoutOf, String.append_assoc]
  · rw [if_neg traced, if_neg traced]
    rfl

theorem printed_solvingDeeds (equations : List Solver.Equation) (result : Solver.Result) :
    Outcome.printed (solvingDeeds settings equations result) =
      traceText settings result.snapshots := by
  have warned : Outcome.printed ((Solver.repeated equations).flatMap fun name =>
      [.log .warning solverLog (Solver.repeatedWarning name)]) = "" := by
    rw [printed_flatMap]
    exact join_map_empty _
  rw [solvingDeeds, Outcome.printed_append, Outcome.printed_append, warned, String.empty_append,
    printed_flatMap]
  simp only [printed_passDeeds]
  rw [traceText]
  change _ ++ "" = _
  rw [String.append_empty]
  split
  · rfl
  · exact join_map_empty _

theorem printed_reportDeeds (document : Document) (result : Solver.Result) :
    Outcome.printed (reportDeeds settings document result) =
      treeText settings document ++ traceText settings result.snapshots := by
  rw [reportDeeds, Outcome.printed_append, printed_solvingDeeds]
  congr 1
  rw [showTree, treeText]
  split
  · simp [Outcome.printed, Outcome.stdoutOf, String.append_assoc]
  · rfl

/-! ## Reports that fail -/

inductive NotReported (scheme : Scheme) (equations : List Solver.Equation) : Failure → Prop
  | undefined {e : Solver.Undefined} (failed : Solver.solve scheme equations = .error e) :
      NotReported scheme equations (.undefined e)
  | unsettled (endless : Solver.solve scheme equations = .ok none) :
      NotReported scheme equations .unsettled
  | overlong {result : Solver.Result} {e : Text.Overlong}
      (returns : Returns scheme equations result) : NotReported scheme equations (.overlong e)

theorem reportPass_confined (count : Nat) (entry : State × Nat) :
    (reportPass settings count entry).Confined Deed.KeepsFiles fun failure =>
      ∃ e, failure = .overlong e := by
  dsimp only [reportPass]
  refine Act.Confined.bind (Act.confined_deed trivial) fun _ _ => ?_
  split
  · refine Act.Confined.bind (confined_attempt fun e _ => ⟨e, rfl⟩) fun _ _ => ?_
    exact Act.Confined.bind (Act.confined_deed trivial) fun _ _ => Act.confined_deed trivial
  · exact Act.confined_pure ()

theorem solveSystem_confined (equations : List Solver.Equation) :
    (solveSystem settings equations).Confined Deed.KeepsFiles
      (NotReported settings.scheme equations) := by
  refine Act.Confined.bind (Act.confined_each _ fun _ _ => Act.confined_deed trivial) fun _ _ => ?_
  refine Act.Confined.bind (confined_attempt fun e failed => .undefined failed)
    fun outcome solved => ?_
  rw [result_attempt] at solved
  cases outcome with
  | none =>
      refine ⟨fun _ => nofun, fun failure failed => ?_⟩
      cases failed
      exact .unsettled solved
  | some result =>
      have returns := Solver.returns_iff_solve.mpr solved
      refine Act.Confined.bind (Act.confined_each _ fun entry _ => ?_) fun _ _ => ?_
      · refine (reportPass_confined result.passes entry).imp (fun _ => id) ?_
        rintro _ ⟨e, rfl⟩
        exact .overlong returns
      · exact Act.Confined.bind (Act.confined_deed trivial) fun _ _ => Act.confined_pure result

theorem returns_of_solveSystem {equations : List Solver.Equation} {result : Solver.Result}
    (ended : (solveSystem settings equations).result = .ok result) :
    Returns settings.scheme equations result := by
  obtain ⟨_, _, ended⟩ := Act.result_bind_eq_ok.mp ended
  obtain ⟨outcome, solved, ended⟩ := Act.result_bind_eq_ok.mp ended
  rw [result_attempt] at solved
  cases outcome with
  | none => cases ended
  | some found =>
      obtain ⟨_, _, ended⟩ := Act.result_bind_eq_ok.mp ended
      obtain ⟨_, _, ended⟩ := Act.result_bind_eq_ok.mp ended
      cases ended
      exact Solver.returns_iff_solve.mpr solved

theorem showTree_confined (document : Document) (fails : Failure → Prop) :
    (showTree settings document).Confined Deed.KeepsFiles fails := by
  refine ⟨fun deed member => ?_, fun _ => nofun⟩
  rw [showTree] at member
  split at member
  · rcases List.mem_pair.mp member with rfl | rfl <;> trivial
  · exact absurd member List.not_mem_nil

theorem report_confined (document : Document) :
    (report settings document).Confined Deed.KeepsFiles
      (NotReported settings.scheme document.system) := by
  refine (showTree_confined document _).bind fun _ _ => ?_
  refine (solveSystem_confined document.system).bind fun result ended => ?_
  exact confined_attempt fun e _ => .overlong (returns_of_solveSystem ended)

theorem listable_of_resultText {result : Solver.Result} {text : String}
    (shown : resultText settings result = .ok text) : Listable result.solution := by
  rw [resultText] at shown
  split at shown
  · obtain ⟨record, recorded, _⟩ := bind_eq_ok.mp shown
    obtain ⟨value, valued, _⟩ := bind_eq_ok.mp recorded
    obtain ⟨rows, listed, _⟩ := bind_eq_ok.mp valued
    exact .of_rows listed
  · obtain ⟨text, texted, _⟩ := bind_eq_ok.mp shown
    obtain ⟨rows, listed, _⟩ := bind_eq_ok.mp texted
    exact .of_rows listed

/-- What a report that succeeds has found. -/
theorem exists_result_of_report {document : Document} {text : String}
    (ended : (report settings document).result = .ok text) :
    ∃ result, Returns settings.scheme document.system result ∧ Listable result.solution := by
  obtain ⟨_, _, ended⟩ := Act.result_bind_eq_ok.mp ended
  obtain ⟨result, solved, ended⟩ := Act.result_bind_eq_ok.mp ended
  rw [result_attempt] at ended
  exact ⟨result, returns_of_solveSystem solved, listable_of_resultText ended⟩

/-! ## Commands that succeed -/

variable {δ : Type} [Settings.Data δ] {reader : Reader δ} {workspace : Workspace} {input : Input}

theorem exists_result_of_success {options : SolveOptions} {verbose : Bool} {outcome : Outcome}
    (ran : Request.perform reader workspace ⟨verbose, .solve input options⟩ = .ok outcome)
    (success : outcome.exit = 0) :
    ∃ given document result, (reading reader workspace input).result = .ok (given, document) ∧
      Returns (options.override given).scheme document.system result ∧
        Listable result.solution := by
  have ended : (runSolve reader workspace input options).result = .ok () :=
    Outcome.result_of_exit ran success
  rw [runSolve_eq, Act.result_bind_eq_ok] at ended
  obtain ⟨⟨given, document⟩, begun, ended⟩ := ended
  obtain ⟨text, reported, _⟩ := Act.result_bind_eq_ok.mp ended
  obtain ⟨result, returns, listable⟩ := exists_result_of_report reported
  exact ⟨given, document, result, begun, returns, listable⟩

/-- What is printed if the result goes to the output stream. -/
theorem perform_stream (options : SolveOptions) (streamed : options.output = .stream)
    {given : Settings} {document : Document} {result : Solver.Result}
    (begun : (reading reader workspace input).result = .ok (given, document))
    (returns : Returns (options.override given).scheme document.system result)
    (listable : Listable result.solution) (verbose : Bool) :
    ∃ outcome, Request.perform reader workspace ⟨verbose, .solve input options⟩ = .ok outcome ∧
      outcome.exit = 0 ∧
        outcome.stdout = treeText (options.override given) document ++
          traceText (options.override given) result.snapshots ++
            (shownResult (options.override given) result ++ "\n") := by
  have whole : runSolve reader workspace input options = ⟨(reading reader workspace input).deeds ++
      (reportDeeds (options.override given) document result ++
        [.print (shownResult (options.override given) result)]), .ok ()⟩ := by
    rw [runSolve_eq, Act.bind_of_ok begun, report_eq returns listable, Act.bind_of_ok rfl, streamed]
    rfl
  obtain ⟨silent, _, _⟩ := onlyDetails _ (reading_confined reader workspace input).deeds
  rw [Request.perform, runTask, whole, Outcome.ofStep_of_ok rfl]
  refine ⟨_, rfl, rfl, ?_⟩
  dsimp only
  rw [Outcome.printed_append, silent, String.empty_append, Outcome.printed_append,
    printed_reportDeeds]
  rfl

end Reaching.Command
