import Reaching.Proofs.Command.Solving
import Reaching.Proofs.Solver.LeastSolution
import Reaching.Proofs.Solver.Solutions

/-! # When a text is solved

`solve` to the output stream ends with code 0 exactly if the text holds a document that refers to no
data point without an equation, and neither a target nor a definition in its solution has too many
digits at its end (`Solvable`).  Otherwise it ends with code 1 and tells of the one `Obstacle` that it
has met.  Of all that may be asked for only the scheme plays a part, as it decides what the solution
of a document with repeated targets is.

Main fact: `solve_succeeds_exactly`. -/
set_option autoImplicit false

namespace Reaching.Command

open Files (Workspace)
open Report (Listable Short)
open Settings (Reader)
open Solver (Closed Returns Scheme targets)
open Source (Dialect Document)

/-! ## Documents that can be shown -/

structure Solvable (dialect : Dialect) (scheme : Scheme) (text : String) (document : Document)
    (result : Solver.Result) : Prop where
  read : Document.ofText? dialect text = .ok document
  closed : Closed document.system
  returns : Returns scheme document.system result
  shortTargets : ∀ equation ∈ document, Short equation.target.text
  shortPoints : ∀ name, ∀ d ∈ result.solution.points name, Short d

inductive Obstacle (dialect : Dialect) (scheme : Scheme) (text : String) : Failure → Prop
  | source {error : Source.SourceError} (unread : Document.ofText? dialect text = .error error) :
      Obstacle dialect scheme text (.source error)
  | undefined {document : Document} {e : Solver.Undefined}
      (read : Document.ofText? dialect text = .ok document) (dangling : ¬ Closed document.system)
      (first : Solver.firstUndefined document.system = some e.name) :
      Obstacle dialect scheme text (.undefined e)
  | overlong {document : Document} {result : Solver.Result} {e : Text.Overlong}
      (read : Document.ofText? dialect text = .ok document)
      (returns : Returns scheme document.system result)
      (long : (∃ equation ∈ document, ¬ Short equation.target.text) ∨
        ∃ name, ∃ d ∈ result.solution.points name, ¬ Short d) :
      Obstacle dialect scheme text (.overlong e)

theorem listable_iff {document : Document} {scheme : Scheme} {result : Solver.Result}
    (returns : Returns scheme document.system result) :
    Listable result.solution ↔ (∀ equation ∈ document, Short equation.target.text) ∧
      ∀ name, ∀ d ∈ result.solution.points name, Short d := by
  have present : ∀ name, name ∈ result.solution.names ↔
      ∃ equation ∈ document, equation.target.text = name := by
    intro name
    rw [Solver.mem_names_of_returns returns, Source.targets_system, List.mem_map]
  constructor
  · intro listable
    refine ⟨fun equation member => listable.names _ ((present _).mpr ⟨equation, member, rfl⟩), ?_⟩
    intro name d member
    by_cases among : name ∈ result.solution.names
    · exact listable.points name among d member
    · rw [Solver.State.points_of_notMem among] at member
      exact absurd member (Solver.PointSet.not_mem_empty d)
  · rintro ⟨targets, points⟩
    refine ⟨fun name member => ?_, fun name _ d member => points name d member⟩
    obtain ⟨equation, written, rfl⟩ := (present name).mp member
    exact targets equation written

/-! ## How a command ends -/

variable {δ : Type} [Settings.Data δ] {reader : Reader δ} {workspace : Workspace} {input : Input}
  {given : Settings} {text : String}

theorem result_reading (configured : (settingsFor reader workspace input).result = .ok given)
    (found : (textOf workspace input.file).result = .ok text) :
    (reading reader workspace input).result =
      ((Document.ofText? given.dialect text).mapError .source).map fun document =>
        (given, document) := by
  rw [reading, opening, Act.bind_of_ok configured, Act.bind_of_ok found, Document.ofText?, tokensIn]
  cases lexed : Source.lex given.dialect text with
  | error error => rfl
  | ok tokens =>
      change (parsed tokens >>= fun document => pure (given, document)).result =
        (((Source.parse tokens).mapError .parse).mapError .source).map fun document =>
          (given, document)
      rw [parsed]
      cases Source.parse tokens with
      | error error => rfl
      | ok document => rfl

theorem result_runSolve_of_error {options : SolveOptions} {failure : Failure}
    (failed : (reading reader workspace input).result = .error failure) :
    (runSolve reader workspace input options).result = .error failure := by
  rw [runSolve_eq, Act.result_bind_eq_error]
  exact .inl failed

theorem result_runSolve_of_report {options : SolveOptions} {found : Settings × Document}
    {failure : Failure} (begun : (reading reader workspace input).result = .ok found)
    (failed : (report (options.override found.1) found.2).result = .error failure) :
    (runSolve reader workspace input options).result = .error failure := by
  rw [runSolve_eq, Act.result_bind_eq_error]
  refine .inr ⟨found, begun, ?_⟩
  rw [Act.result_bind_eq_error]
  exact .inl failed

/-- A command that has solved its text or has told what kept it from that. -/
inductive Ending (dialect : Dialect) (scheme : Scheme) (text : String) (outcome : Outcome) : Prop
  | solved (exit : outcome.exit = 0)
      (solvable : ∃ document result, Solvable dialect scheme text document result)
  | refused (exit : outcome.exit = 1)
      (unsolvable : ¬ ∃ document result, Solvable dialect scheme text document result)
      (told : ∃ failure before, Obstacle dialect scheme text failure ∧
        outcome.stderr = before ++ "Error: " ++ failure.message ++ "\n")

theorem Obstacle.mild {dialect : Dialect} {scheme : Scheme} {failure : Failure}
    (obstacle : Obstacle dialect scheme text failure) : failure.isAbrupt = false := by
  cases obstacle <;> rfl

/-- No text can be solved that has met an obstacle. -/
theorem Obstacle.unsolvable {dialect : Dialect} {scheme : Scheme} {failure : Failure}
    (obstacle : Obstacle dialect scheme text failure) :
    ¬ ∃ document result, Solvable dialect scheme text document result := by
  rintro ⟨document, result, read, closed, returns, targets, points⟩
  cases obstacle with
  | source unread =>
      rw [read] at unread
      cases unread
  | undefined again dangling first =>
      cases read.symm.trans again
      exact dangling closed
  | overlong again returned long =>
      cases read.symm.trans again
      cases returns.unique returned
      rcases long with ⟨equation, member, long⟩ | ⟨name, d, member, long⟩
      · exact long (targets equation member)
      · exact long (points name d member)

theorem obstacle_of_report {dialect : Dialect} {settings : Settings} {document : Document}
    {failure : Failure} (read : Document.ofText? dialect text = .ok document)
    (failed : (report settings document).result = .error failure) :
    Obstacle dialect settings.scheme text failure := by
  cases (report_confined document).failure failure failed with
  | @undefined e stopped =>
      have first := Solver.solve_eq_error_iff.mp stopped
      refine .undefined read (fun closed => ?_) first
      rw [Solver.firstUndefined_eq_none_iff.mpr closed] at first
      cases first
  | unsettled endless =>
      -- Cannot occur: a document subtracts no data point, so the passes over it settle.
      obtain ⟨result, returns⟩ := Solver.exists_returns (Solver.closed_of_solve endless)
        (Source.constantSubtrahends_system document) settings.scheme
      rw [Solver.returns_iff_solve.mp returns] at endless
      cases endless
  | @overlong result e returns =>
      refine .overlong read returns ?_
      -- If the solution can be listed, so can the state after each pass, and the report is made.
      by_contra short
      simp only [not_or, not_exists, not_and, not_not] at short
      rw [report_eq returns ((listable_iff returns).mpr short)] at failed
      cases failed

theorem ending_of_stream (configured : (settingsFor reader workspace input).result = .ok given)
    (found : (textOf workspace input.file).result = .ok text) (verbose : Bool)
    {options : SolveOptions} (streamed : options.output = .stream) :
    ∃ outcome, Request.perform reader workspace ⟨verbose, .solve input options⟩ = .ok outcome ∧
      Ending given.dialect (options.scheme.getD given.scheme) text outcome := by
  have begun := result_reading configured found
  have refusing : ∀ failure, (runSolve reader workspace input options).result = .error failure →
      Obstacle given.dialect (options.scheme.getD given.scheme) text failure →
        ∃ outcome, Request.perform reader workspace ⟨verbose, .solve input options⟩ = .ok outcome ∧
          Ending given.dialect (options.scheme.getD given.scheme) text outcome := by
    intro failure failed obstacle
    rw [Request.perform, runTask, Outcome.ofStep_of_error failed, obstacle.mild]
    exact ⟨_, rfl, .refused rfl obstacle.unsolvable ⟨failure, _, obstacle, rfl⟩⟩
  cases read : Document.ofText? given.dialect text with
  | error error =>
      rw [read] at begun
      exact refusing _ (result_runSolve_of_error begun) (.source read)
  | ok document =>
      rw [read] at begun
      cases reported : (report (options.override given) document).result with
      | error failure =>
          exact refusing _ (result_runSolve_of_report begun reported)
            (obstacle_of_report read reported)
      | ok shown =>
          obtain ⟨result, returns, listable⟩ := exists_result_of_report reported
          obtain ⟨closed, _⟩ := Solver.returns_iff_settlesAt.mp returns
          obtain ⟨targets, points⟩ := (listable_iff returns).mp listable
          obtain ⟨outcome, ran, exit, _⟩ :=
            perform_stream options streamed begun returns listable verbose
          exact ⟨outcome, ran, .solved exit ⟨document, result, read, closed, returns, targets, points⟩⟩

/-! ## What success depends on -/

theorem Solvable.of_distinct {dialect : Dialect} {scheme : Scheme} {document : Document}
    {result : Solver.Result} (solvable : Solvable dialect scheme text document result)
    (distinct : (targets document.system).Nodup) (other : Scheme) :
    ∃ result, Solvable dialect other text document result := by
  obtain ⟨read, closed, returns, short, points⟩ := solvable
  obtain ⟨solution, _, solved⟩ :=
    Solver.solvedByLeast closed distinct (Source.constantSubtrahends_system document)
  obtain ⟨first, found, rfl⟩ := solved scheme
  obtain ⟨last, ended, same⟩ := solved other
  cases returns.unique (Solver.returns_iff_solve.mpr found)
  exact ⟨last, read, closed, Solver.returns_iff_solve.mpr ended, short, same ▸ points⟩

/-! ## Two texts -/

/-- Two texts on one shelf: the data points of the first feed each other, the second refers to one that
has no equation. -/
def shelf : Workspace where
  here := ["home"]
  entries :=
    [(["home", "ring.eq"], .file "L1 = L2 U {d1}\nL2 = L1 \\ {d2}".toUTF8.data.toList),
      (["home", "gap.eq"], .file "L1 = {d1} U L9".toUTF8.data.toList)]

def ring : Document :=
  [⟨⟨"L1", ⟨1, 1⟩⟩, .union (.operand (.point ⟨"L2", ⟨1, 6⟩⟩)) (.set [⟨"d1", ⟨1, 12⟩⟩])⟩,
    ⟨⟨"L2", ⟨2, 1⟩⟩, .difference (.operand (.point ⟨"L1", ⟨2, 6⟩⟩)) [⟨"d2", ⟨2, 12⟩⟩]⟩]

def gap : Document :=
  [⟨⟨"L1", ⟨1, 1⟩⟩, .union (.operand (.set [⟨"d1", ⟨1, 7⟩⟩])) (.point ⟨"L9", ⟨1, 13⟩⟩)⟩]

theorem text_ring : (textOf shelf "ring.eq").result = .ok "L1 = L2 U {d1}\nL2 = L1 \\ {d2}" := by
  cbv

def ringState : Solver.State := .ofList [("L1", .ofList ["d1"]), ("L2", .ofList ["d1"])]

theorem returns_ring : Returns .inPlace ring.system ⟨1, 2, ringState, [ringState, ringState]⟩ :=
  Solver.returns_iff_solve.mpr (by decide +kernel)

theorem listable_ring : Listable ringState := by
  have named : Report.WellNamed ringState := by decide +kernel
  obtain ⟨rows, called, _⟩ := named.exists_rows
  exact .of_rows called

theorem solvable_ring : Solvable ⟨true, true⟩ .inPlace "L1 = L2 U {d1}\nL2 = L1 \\ {d2}" ring
    ⟨1, 2, ringState, [ringState, ringState]⟩ := by
  obtain ⟨targets, points⟩ := (listable_iff returns_ring).mp listable_ring
  exact ⟨by decide +kernel, by decide, returns_ring, targets, points⟩

theorem reading_ring : (reading yamlReader shelf ⟨"ring.eq", none, true⟩).result =
    .ok ({ dialect := ⟨true, true⟩ }, ring) := by
  have configured : (settingsFor yamlReader shelf ⟨"ring.eq", none, true⟩).result =
      .ok { dialect := ⟨true, true⟩ } := rfl
  rw [result_reading configured text_ring, solvable_ring.read]
  rfl

/-- What is known of the commands that solve one text for the output stream. -/
structure SolvesExactly (reader : Reader δ) (workspace : Workspace) (input : Input) (given : Settings)
    (text : String) : Prop where
  ends : ∀ verbose options, options.output = .stream →
    ∃ outcome, Request.perform reader workspace ⟨verbose, .solve input options⟩ = .ok outcome ∧
      Ending given.dialect (options.scheme.getD given.scheme) text outcome
  settles : ∀ document, Document.ofText? given.dialect text = .ok document →
    Closed document.system → ∀ scheme, ∃ result, Returns scheme document.system result
  alike : ∀ verbose options outcome loud others other,
    options.output = .stream → others.output = .stream →
      options.scheme.getD given.scheme = others.scheme.getD given.scheme →
        Request.perform reader workspace ⟨verbose, .solve input options⟩ = .ok outcome →
          Request.perform reader workspace ⟨loud, .solve input others⟩ = .ok other →
            outcome.exit = other.exit
  distinct : ∀ document, Document.ofText? given.dialect text = .ok document →
    (targets document.system).Nodup → ∀ scheme other result,
      Solvable given.dialect scheme text document result →
        ∃ result, Solvable given.dialect other text document result

theorem solve_succeeds_exactly (reader : Reader δ) (workspace : Workspace) (input : Input)
    (given : Settings) (text : String) (configured : (settingsFor reader workspace input).result = .ok given)
    (found : (textOf workspace input.file).result = .ok text) :
    SolvesExactly reader workspace input given text where
  ends verbose _ streamed := ending_of_stream configured found verbose streamed
  settles document _ closed scheme :=
    Solver.exists_returns closed (Source.constantSubtrahends_system document) scheme
  alike verbose options outcome loud others other streamed streams same ran went := by
    obtain ⟨_, ended, first⟩ := ending_of_stream configured found verbose streamed
    obtain ⟨_, finished, last⟩ := ending_of_stream configured found loud streams
    cases ran.symm.trans ended
    cases went.symm.trans finished
    rw [← same] at last
    cases first with
    | solved exit solvable =>
        cases last with
        | solved final _ => rw [exit, final]
        | refused _ unsolvable _ => exact absurd solvable unsolvable
    | refused exit unsolvable _ =>
        cases last with
        | solved _ solvable => exact absurd solvable unsolvable
        | refused final _ _ => rw [exit, final]
  distinct _ _ distinct _ other _ solvable := solvable.of_distinct distinct other

/-- The first is solved and the second is not, whatever is shown of them. -/
theorem solve_succeeds_exactly_shelved :
    (settingsFor yamlReader shelf ⟨"ring.eq", none, true⟩).result = .ok { dialect := ⟨true, true⟩ } ∧
    (textOf shelf "ring.eq").result = .ok "L1 = L2 U {d1}\nL2 = L1 \\ {d2}" ∧
    (∃ outcome, Request.perform yamlReader shelf ⟨true, .solve ⟨"ring.eq", none, true⟩
        { trace := true, tree := true, format := some .json }⟩ = .ok outcome ∧ outcome.exit = 0) ∧
    (settingsFor yamlReader shelf ⟨"gap.eq", none, false⟩).result = .ok {} ∧
    (textOf shelf "gap.eq").result = .ok "L1 = {d1} U L9" ∧
    ∃ outcome, Request.perform yamlReader shelf ⟨false, .solve ⟨"gap.eq", none, false⟩ {}⟩ =
      .ok outcome ∧ outcome.exit = 1 := by
  have other : (textOf shelf "gap.eq").result = .ok "L1 = {d1} U L9" := by cbv
  refine ⟨rfl, text_ring, ?_, rfl, other, ?_⟩
  · obtain ⟨outcome, ran, solved⟩ :=
      (solve_succeeds_exactly yamlReader shelf ⟨"ring.eq", none, true⟩ _ _ rfl text_ring).ends true
        { trace := true, tree := true, format := some .json } rfl
    refine ⟨outcome, ran, ?_⟩
    cases solved with
    | solved exit _ => exact exit
    | refused _ unsolvable _ => exact absurd ⟨ring, _, solvable_ring⟩ unsolvable
  · obtain ⟨outcome, ran, refused⟩ :=
      (solve_succeeds_exactly yamlReader shelf ⟨"gap.eq", none, false⟩ _ _ rfl other).ends false {} rfl
    refine ⟨outcome, ran, ?_⟩
    cases refused with
    | refused exit _ _ => exact exit
    | solved _ solvable =>
        obtain ⟨document, result, read, closed, _⟩ := solvable
        have whole : Document.ofText? ⟨false, true⟩ "L1 = {d1} U L9" = .ok gap := by decide +kernel
        cases whole.symm.trans read
        exact absurd closed (by decide)

end Reaching.Command
