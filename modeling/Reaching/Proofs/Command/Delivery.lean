import Reaching.Proofs.Command.Success

/-! # Output to a file is all or nothing

A `solve` command reads its input and makes its report without a look at where the result goes, and
without touching a file.  Only then is the result delivered (`solving`), so a command that fails has
written nothing, and one that does not has written one file, with the text that would else have been
the last of its output.

Main fact: `output_all_or_nothing`. -/
set_option autoImplicit false

namespace Reaching.Command

open Files (Workspace)
open Report (Listable)
open Settings (Reader)
open Solver (Returns)
open Source (Document)

/-! ## What is written -/

def written (deeds : List Deed) : List (List String × String) := deeds.filterMap Outcome.writtenBy

theorem written_append (first second : List Deed) :
    written (first ++ second) = written first ++ written second :=
  List.filterMap_append

theorem written_eq_nil {deeds : List Deed} (kept : ∀ deed ∈ deeds, deed.KeepsFiles) :
    written deeds = [] := by
  refine List.filterMap_eq_nil_iff.mpr fun deed member => ?_
  cases deed with
  | write place content => exact (kept _ member).elim
  | _ => rfl

theorem findSome?_writtenBy (deeds : List Deed) :
    deeds.findSome? Outcome.writtenBy = (written deeds).head? :=
  List.head?_filterMap.symm

theorem written_of_ofStep {step : Step Unit} {verbose : Bool} {outcome : Outcome}
    (ended : Outcome.ofStep verbose step = .ok outcome) :
    outcome.written = (written step.deeds).head? := by
  rw [← findSome?_writtenBy]
  cases result : step.result with
  | ok value =>
      rw [Outcome.ofStep_of_ok result] at ended
      cases ended
      rfl
  | error failure =>
      rw [Outcome.ofStep_of_error result] at ended
      split at ended
      · cases ended
      · cases ended
        rfl

def SolveOptions.sentTo (options : SolveOptions) (destination : Destination) : SolveOptions :=
  { options with output := destination }

/-! ## Where delivery begins -/

section Solving

variable {δ : Type} [Settings.Data δ] (reader : Reader δ) (workspace : Workspace) (input : Input)
  (options : SolveOptions)

/-- How a command goes that may send its result to any destination: it is stuck before the result is
made, or has one result for all of them. -/
inductive Solving : Prop
  | stuck (deeds : List Deed) (failure : Failure) (kept : ∀ deed ∈ deeds, deed.KeepsFiles)
      (runs : ∀ destination, runSolve reader workspace input (options.sentTo destination) =
        ⟨deeds, .error failure⟩)
  | reported {deeds : List Deed} {given : Settings} {document : Document}
      {result : Solver.Result} (kept : ∀ deed ∈ deeds, deed.KeepsFiles)
      (begun : (reading reader workspace input).result = .ok (given, document))
      (returns : Returns (options.override given).scheme document.system result)
      (listable : Listable result.solution)
      (shows : Outcome.printed deeds = treeText (options.override given) document ++
        traceText (options.override given) result.snapshots)
      (runs : ∀ destination, runSolve reader workspace input (options.sentTo destination) =
        ⟨deeds ++
          (deliver workspace (shownResult (options.override given) result) destination).deeds,
          (deliver workspace (shownResult (options.override given) result) destination).result⟩)

theorem solving : Solving reader workspace input options := by
  have before : ∀ deed ∈ (reading reader workspace input).deeds, deed.KeepsFiles := fun deed member =>
    ((reading_confined reader workspace input).deeds deed member).keepsFiles
  cases begun : (reading reader workspace input).result with
  | error failure =>
      refine .stuck _ failure before fun destination => ?_
      rw [runSolve_eq, Act.bind_of_error begun]
  | ok found =>
      obtain ⟨given, document⟩ := found
      have kept : ∀ deed ∈ (reading reader workspace input).deeds ++
          (report (options.override given) document).deeds, deed.KeepsFiles :=
        List.forall_mem_append.mpr ⟨before, (report_confined document).deeds⟩
      have runs : ∀ destination, runSolve reader workspace input (options.sentTo destination) =
          reading reader workspace input >>= fun _ =>
            report (options.override given) document >>= fun text =>
              deliver workspace text destination := by
        intro destination
        rw [runSolve_eq, Act.bind_of_ok begun, Act.bind_of_ok begun]
        rfl
      cases reported : (report (options.override given) document).result with
      | error failure =>
          refine .stuck _ failure kept fun destination => ?_
          rw [runs, Act.bind_of_ok begun, Act.bind_of_error reported]
      | ok text =>
          obtain ⟨result, returns, listable⟩ := exists_result_of_report reported
          have whole := report_eq returns listable
          refine .reported kept begun returns listable ?_ fun destination => ?_
          · obtain ⟨silent, _, _⟩ := onlyDetails _ (reading_confined reader workspace input).deeds
            rw [Outcome.printed_append, silent, String.empty_append, whole, printed_reportDeeds]
          · rw [runs, Act.bind_of_ok begun, whole, Act.bind_of_ok rfl, List.append_assoc]

end Solving

variable {δ : Type} [Settings.Data δ] {reader : Reader δ} {workspace : Workspace} {input : Input}
  {options : SolveOptions}

/-! ## Files -/

theorem deliver_of_opened {path : String} {place : List String}
    (opened : workspace.openToWrite? (Files.Path.normal path) = .ok place) (text : String) :
    deliver workspace text (.file path) =
      ⟨[.write place (text ++ "\n"), .notice ("Output written to " ++ path)], .ok ()⟩ := by
  rw [deliver, opened]
  rfl

theorem deliver_of_refused {path : String} {fault : Files.FileFault}
    (refused : workspace.openToWrite? (Files.Path.normal path) = .error fault) (text : String) :
    deliver workspace text (.file path) = ⟨[], .error (.file fault)⟩ := by
  rw [deliver, refused]
  rfl

def filesOf (reader : Reader δ) (workspace : Workspace) (input : Input) (options : SolveOptions)
    (path : String) : List (List String × String) :=
  written (runTask reader workspace (.solve input (options.sentTo (.file path)))).deeds

/-- Of what one command prints, another prints the front and writes the last text to a place. -/
structure Splits (printed outcome : Outcome) (place : List String) (front last : String) : Prop where
  exit : printed.exit = 0
  printed : printed.stdout = front ++ last
  front : outcome.stdout = front
  written : outcome.written = some (place, last)

/-- A command that sends its result to a file beside the same command that prints it.  Either both fail
in the same way, or the one prints what the other prints without its last text, and writes this to the
file if that can be opened. -/
structure AllOrNothing (reader : Reader δ) (workspace : Workspace) (input : Input)
    (options : SolveOptions) (path : String) (verbose : Bool) : Prop where
  nothing : ∀ outcome,
    Request.perform reader workspace ⟨verbose, .solve input (options.sentTo (.file path))⟩ =
      .ok outcome → outcome.exit = 1 → outcome.written = none ∧ filesOf reader workspace input options path = []
  all : ∀ outcome,
    Request.perform reader workspace ⟨verbose, .solve input (options.sentTo (.file path))⟩ =
      .ok outcome → outcome.exit = 0 → ∃ place printed given document result,
        workspace.openToWrite? (Files.Path.normal path) = .ok place ∧
        Request.perform reader workspace ⟨verbose, .solve input (options.sentTo .stream)⟩ =
          .ok printed ∧
        (reading reader workspace input).result = .ok (given, document) ∧
        Returns (options.override given).scheme document.system result ∧
        Splits printed outcome place
          (treeText (options.override given) document ++
            traceText (options.override given) result.snapshots)
          (shownResult (options.override given) result ++ "\n") ∧
        filesOf reader workspace input options path =
          [(place, shownResult (options.override given) result ++ "\n")]
  broken : ∀ failure,
    Request.perform reader workspace ⟨verbose, .solve input (options.sentTo (.file path))⟩ =
      .error failure → filesOf reader workspace input options path = []
  refused : ∀ printed,
    Request.perform reader workspace ⟨verbose, .solve input (options.sentTo .stream)⟩ = .ok printed →
      printed.exit = 1 →
        Request.perform reader workspace ⟨verbose, .solve input (options.sentTo (.file path))⟩ =
          .ok printed
  opened : ∀ printed place,
    Request.perform reader workspace ⟨verbose, .solve input (options.sentTo .stream)⟩ = .ok printed →
      printed.exit = 0 → workspace.openToWrite? (Files.Path.normal path) = .ok place →
        ∃ outcome, Request.perform reader workspace
          ⟨verbose, .solve input (options.sentTo (.file path))⟩ = .ok outcome ∧ outcome.exit = 0
  unopened : ∀ printed fault,
    Request.perform reader workspace ⟨verbose, .solve input (options.sentTo .stream)⟩ = .ok printed →
      printed.exit = 0 → workspace.openToWrite? (Files.Path.normal path) = .error fault →
        ∃ outcome before, Request.perform reader workspace
          ⟨verbose, .solve input (options.sentTo (.file path))⟩ = .ok outcome ∧
            outcome.exit = 1 ∧ outcome.stderr = before ++ "Error: " ++ fault.message ++ "\n"

theorem written_of_perform {path : String} {verbose : Bool} {outcome : Outcome}
    (ran : Request.perform reader workspace ⟨verbose, .solve input (options.sentTo (.file path))⟩ =
      .ok outcome) : outcome.written = (filesOf reader workspace input options path).head? :=
  written_of_ofStep ran

theorem allOrNothing_of_stuck {path : String} {verbose : Bool} {deeds : List Deed}
    {failure : Failure} (kept : ∀ deed ∈ deeds, deed.KeepsFiles)
    (runs : ∀ destination, runSolve reader workspace input (options.sentTo destination) =
      ⟨deeds, .error failure⟩) : AllOrNothing reader workspace input options path verbose := by
  have nothing : filesOf reader workspace input options path = [] := by
    rw [filesOf, runTask, runs]
    exact written_eq_nil kept
  have same : ∀ destination,
      Request.perform reader workspace ⟨verbose, .solve input (options.sentTo destination)⟩ =
        Outcome.ofStep verbose ⟨deeds, .error failure⟩ := by
    intro destination
    rw [Request.perform, runTask, runs]
  have failing : ∀ outcome, Outcome.ofStep verbose ⟨deeds, .error failure⟩ = .ok outcome →
      outcome.exit ≠ 0 := by
    intro outcome ran exit
    cases Outcome.result_of_exit ran exit
  constructor
  · intro outcome ran _
    refine ⟨?_, nothing⟩
    rw [written_of_perform ran, nothing]
    rfl
  · exact fun outcome ran exit => absurd exit (failing outcome (same _ ▸ ran))
  · exact fun _ _ => nothing
  · intro printed ran _
    rw [same] at ran ⊢
    exact ran
  · exact fun printed _ ran exit => absurd exit (failing printed (same _ ▸ ran))
  · exact fun printed _ ran exit => absurd exit (failing printed (same _ ▸ ran))

section Delivered

variable {path : String} {deeds : List Deed} {text : String}
  (runs : ∀ destination, runSolve reader workspace input (options.sentTo destination) =
    ⟨deeds ++ (deliver workspace text destination).deeds,
      (deliver workspace text destination).result⟩)

include runs

theorem perform_opened {place : List String}
    (opened : workspace.openToWrite? (Files.Path.normal path) = .ok place) (verbose : Bool) :
    ∃ outcome,
      Request.perform reader workspace ⟨verbose, .solve input (options.sentTo (.file path))⟩ =
        .ok outcome ∧ outcome.exit = 0 ∧ outcome.stdout = Outcome.printed deeds := by
  rw [Request.perform, runTask, runs, deliver_of_opened opened, Outcome.ofStep_of_ok rfl]
  exact ⟨_, rfl, rfl, (Outcome.printed_append deeds _).trans String.append_empty⟩

theorem filesOf_opened {place : List String} (kept : ∀ deed ∈ deeds, deed.KeepsFiles)
    (opened : workspace.openToWrite? (Files.Path.normal path) = .ok place) :
    filesOf reader workspace input options path = [(place, text ++ "\n")] := by
  rw [filesOf, runTask, runs, deliver_of_opened opened, written_append, written_eq_nil kept]
  rfl

theorem perform_unopened {fault : Files.FileFault}
    (refused : workspace.openToWrite? (Files.Path.normal path) = .error fault) (verbose : Bool) :
    ∃ outcome before,
      Request.perform reader workspace ⟨verbose, .solve input (options.sentTo (.file path))⟩ =
        .ok outcome ∧ outcome.exit = 1 ∧ outcome.stderr = before ++ "Error: " ++ fault.message ++ "\n" := by
  rw [Request.perform, runTask, runs, deliver_of_refused refused, Outcome.ofStep_of_error rfl]
  exact ⟨_, _, rfl, rfl, rfl⟩

theorem filesOf_unopened {fault : Files.FileFault} (kept : ∀ deed ∈ deeds, deed.KeepsFiles)
    (refused : workspace.openToWrite? (Files.Path.normal path) = .error fault) :
    filesOf reader workspace input options path = [] := by
  rw [filesOf, runTask, runs, deliver_of_refused refused, written_append, written_eq_nil kept]
  rfl

end Delivered

section Reported

variable {path : String} {deeds : List Deed} {given : Settings} {document : Document}
  {result : Solver.Result} (kept : ∀ deed ∈ deeds, deed.KeepsFiles)
  (begun : (reading reader workspace input).result = .ok (given, document))
  (returns : Returns (options.override given).scheme document.system result)
  (listable : Listable result.solution)
  (runs : ∀ destination, runSolve reader workspace input (options.sentTo destination) =
    ⟨deeds ++ (deliver workspace (shownResult (options.override given) result) destination).deeds,
      (deliver workspace (shownResult (options.override given) result) destination).result⟩)

include begun returns listable in
/-- The command that prints its result succeeds, so it does not fail. -/
theorem printed_of_perform {verbose : Bool} {printed : Outcome}
    (ran : Request.perform reader workspace ⟨verbose, .solve input (options.sentTo .stream)⟩ =
      .ok printed) : printed.exit ≠ 1 := by
  obtain ⟨other, streamed, success, _⟩ :=
    perform_stream (options.sentTo .stream) rfl begun returns listable verbose
  cases streamed.symm.trans ran
  rw [success]
  decide

include kept begun returns listable runs

theorem allOrNothing_of_opened {place : List String}
    (opened : workspace.openToWrite? (Files.Path.normal path) = .ok place)
    (shows : Outcome.printed deeds = treeText (options.override given) document ++
      traceText (options.override given) result.snapshots) (verbose : Bool) :
    AllOrNothing reader workspace input options path verbose := by
  obtain ⟨printed, streamed, success, stdout⟩ :=
    perform_stream (options.sentTo .stream) rfl begun returns listable verbose
  obtain ⟨outcome, ended, exit, front⟩ := perform_opened runs opened verbose
  have files := filesOf_opened runs kept opened
  have last := written_of_perform ended
  rw [shows] at front
  rw [files] at last
  constructor
  · intro other ran failure
    cases ended.symm.trans ran
    rw [exit] at failure
    cases failure
  · intro other ran _
    cases ended.symm.trans ran
    exact ⟨place, printed, given, document, result, opened, streamed, begun, returns,
      ⟨success, stdout, front, last⟩, files⟩
  · intro failure broken
    cases ended.symm.trans broken
  · exact fun other ran failure => absurd failure (printed_of_perform begun returns listable ran)
  · exact fun _ _ _ _ _ => ⟨outcome, ended, exit⟩
  · intro _ fault _ _ fails
    cases opened.symm.trans fails

theorem allOrNothing_of_unopened {fault : Files.FileFault}
    (refused : workspace.openToWrite? (Files.Path.normal path) = .error fault) (verbose : Bool) :
    AllOrNothing reader workspace input options path verbose := by
  obtain ⟨outcome, before, ended, exit, told⟩ := perform_unopened runs refused verbose
  have files := filesOf_unopened runs kept refused
  have last := written_of_perform ended
  rw [files] at last
  constructor
  · intro other ran _
    cases ended.symm.trans ran
    exact ⟨last, files⟩
  · intro other ran success
    cases ended.symm.trans ran
    rw [exit] at success
    cases success
  · exact fun _ _ => files
  · exact fun other ran failure => absurd failure (printed_of_perform begun returns listable ran)
  · intro _ place _ _ opens
    cases refused.symm.trans opens
  · intro _ other _ _ fails
    cases refused.symm.trans fails
    exact ⟨outcome, before, ended, exit, told⟩

end Reported

theorem output_all_or_nothing (reader : Reader δ) (workspace : Workspace) (input : Input)
    (options : SolveOptions) (path : String) (verbose : Bool) : AllOrNothing reader workspace input options path verbose := by
  cases solving reader workspace input options with
  | stuck _ _ kept runs => exact allOrNothing_of_stuck kept runs
  | reported kept begun returns listable shows runs =>
      cases opened : workspace.openToWrite? (Files.Path.normal path) with
      | ok place =>
          exact allOrNothing_of_opened kept begun returns listable runs opened shows verbose
      | error fault =>
          exact allOrNothing_of_unopened kept begun returns listable runs opened verbose

/-- The circle is written to a new file, and nothing is written if its directory is missing. -/
theorem output_all_or_nothing_shelved :
    (∃ outcome, Request.perform yamlReader shelf ⟨false, .solve ⟨"ring.eq", none, true⟩
        (SolveOptions.sentTo { trace := true, tree := true } (.file "out.txt"))⟩ = .ok outcome ∧
      outcome.exit = 0 ∧ outcome.written = some (["home", "out.txt"],
        "L1: \x7bd1\x7d\nL2: \x7bd1\x7d\nConverged after 1 iteration(s) (2 passes)\n")) ∧
    ∃ outcome, Request.perform yamlReader shelf ⟨false, .solve ⟨"ring.eq", none, true⟩
        (SolveOptions.sentTo { trace := true, tree := true } (.file "lost/out.txt"))⟩ = .ok outcome ∧
      outcome.exit = 1 ∧ outcome.written = none := by
  obtain ⟨printed, streamed, success, _⟩ :=
    perform_stream { trace := true, tree := true } rfl reading_ring returns_ring listable_ring false
  constructor
  · have delivery := output_all_or_nothing yamlReader shelf ⟨"ring.eq", none, true⟩
      { trace := true, tree := true } "out.txt" false
    have opened : shelf.openToWrite? (Files.Path.normal "out.txt") = .ok ["home", "out.txt"] := by
      rw [show Files.Path.normal "out.txt" = "out.txt" by decide +kernel]
      cbv
    obtain ⟨outcome, ran, exit⟩ := delivery.opened printed _ streamed success opened
    obtain ⟨place, _, given, document, result, found, _, begun, returns, splits, _⟩ :=
      delivery.all outcome ran exit
    cases opened.symm.trans found
    cases reading_ring.symm.trans begun
    cases returns_ring.unique returns
    refine ⟨outcome, ran, exit, splits.written.trans ?_⟩
    cbv
  · have delivery := output_all_or_nothing yamlReader shelf ⟨"ring.eq", none, true⟩
      { trace := true, tree := true } "lost/out.txt" false
    have missing : shelf.openToWrite? (Files.Path.normal "lost/out.txt") =
        .error (.refused .missing "lost/out.txt") := by
      rw [show Files.Path.normal "lost/out.txt" = "lost/out.txt" by decide +kernel]
      cbv
    obtain ⟨outcome, _, ran, exit, _⟩ := delivery.unopened printed _ streamed success missing
    exact ⟨outcome, ran, exit, (delivery.nothing outcome ran exit).1⟩

end Reaching.Command
