import Reaching.Proofs.Calls
import Reaching.Proofs.Command.Steps
import Reaching.Proofs.Document.System
import Reaching.Settings.YamlData

/-! # The commands read their input in the same way

All commands that take an equation file begin alike: they read the settings, then the text, and cut
it into tokens (`opening`); `parse` and `solve` go on to its document (`reading`).  Until then nothing
but details is logged, so a command that fails there prints nothing, writes no file, and leaves the
line that tells of the failure (`RefusedFor`).  After tokens that could be cut, all that can still
fail is the grammar (`Parsing`).

Main fact: `commands_accept_alike`. -/
set_option autoImplicit false

namespace Reaching.Command

open Files (Workspace)
open Settings (Reader)
open Source (Document ParseError Token)

/-! ## What an outcome shows of the deeds -/

namespace Outcome

def printed (deeds : List Deed) : String := String.join (deeds.map stdoutOf)

def logged (verbose : Bool) (deeds : List Deed) : String :=
  String.join (deeds.map (stderrOf verbose))

theorem printed_append (first second : List Deed) :
    printed (first ++ second) = printed first ++ printed second := by
  rw [printed, List.map_append, String.join_append, printed, printed]

theorem ofStep_of_ok {step : Step Unit} (ended : step.result = .ok ()) (verbose : Bool) :
    ofStep verbose step = .ok ⟨0, printed step.deeds, logged verbose step.deeds,
      step.deeds.findSome? writtenBy⟩ := by
  rw [ofStep, ended]
  rfl

theorem ofStep_of_error {step : Step Unit} {failure : Failure}
    (failed : step.result = .error failure) (verbose : Bool) :
    ofStep verbose step =
      if failure.isAbrupt then .error failure
      else .ok ⟨1, printed step.deeds,
        logged verbose step.deeds ++ "Error: " ++ failure.message ++ "\n",
        step.deeds.findSome? writtenBy⟩ := by
  rw [ofStep, failed]
  rfl

/-- A command that ends with code 1 has met a failure that it is prepared for. -/
theorem exists_failure_of_exit {step : Step Unit} {verbose : Bool} {outcome : Outcome}
    (ended : ofStep verbose step = .ok outcome) (exit : outcome.exit = 1) :
    ∃ failure, step.result = .error failure ∧ failure.isAbrupt = false := by
  cases result : step.result with
  | ok value =>
      rw [ofStep_of_ok result] at ended
      cases ended
      cases exit
  | error failure =>
      refine ⟨failure, rfl, ?_⟩
      cases abrupt : failure.isAbrupt with
      | false => rfl
      | true =>
          rw [ofStep_of_error result, if_pos abrupt] at ended
          cases ended

theorem result_of_exit {step : Step Unit} {verbose : Bool} {outcome : Outcome}
    (ended : ofStep verbose step = .ok outcome) (exit : outcome.exit = 0) :
    step.result = .ok () := by
  cases result : step.result with
  | ok value => rfl
  | error failure =>
      rw [ofStep_of_error result] at ended
      split at ended
      · cases ended
      · cases ended
        cases exit

theorem result_of_abrupt {step : Step Unit} {verbose : Bool} {failure : Failure}
    (broken : ofStep verbose step = .error failure) :
    step.result = .error failure ∧ failure.isAbrupt = true := by
  cases result : step.result with
  | ok value =>
      rw [ofStep_of_ok result] at broken
      cases broken
  | error other =>
      rw [ofStep_of_error result] at broken
      split at broken
      · rename_i abrupt
        cases broken
        exact ⟨rfl, abrupt⟩
      · cases broken

end Outcome

/-! ## Details -/

def Deed.IsDetail : Deed → Prop
  | .log .debug _ _ => True
  | _ => False

structure OnlyDetails (deeds : List Deed) : Prop where
  printed : Outcome.printed deeds = ""
  logged : Outcome.logged false deeds = ""
  written : deeds.findSome? Outcome.writtenBy = none

theorem onlyDetails : ∀ deeds : List Deed, (∀ deed ∈ deeds, deed.IsDetail) → OnlyDetails deeds := by
  intro deeds
  induction deeds with
  | nil => exact fun _ => ⟨rfl, rfl, rfl⟩
  | cons deed rest ih =>
      intro all
      obtain ⟨first, others⟩ := List.forall_mem_cons.mp all
      obtain ⟨printed, logged, written⟩ := ih others
      match deed, first with
      | .log .debug source message, _ =>
          refine ⟨?_, ?_, ?_⟩
          · rw [Outcome.printed, List.map_cons, String.join_cons]
            exact printed
          · rw [Outcome.logged, List.map_cons, String.join_cons]
            exact logged
          · rw [List.findSome?_cons]
            exact written

/-! ## First steps -/

variable {δ : Type} [Settings.Data δ]

def opening (reader : Reader δ) (workspace : Workspace) (input : Input) :
    Step (Settings × List Token) := do
  let settings ← settingsFor reader workspace input
  let text ← textOf workspace input.file
  let tokens ← tokensIn settings.dialect text
  return (settings, tokens)

def parsed (tokens : List Token) : Step Document := do
  let document ← attempt (fun error => .source (.parse error)) (Source.parse tokens)
  log .debug lexerLog ("Parsed " ++ toString document.length ++ " equations")
  return document

def reading (reader : Reader δ) (workspace : Workspace) (input : Input) :
    Step (Settings × Document) := do
  let found ← opening reader workspace input
  let document ← parsed found.2
  return (found.1, document)

theorem runTokens_eq (reader : Reader δ) (workspace : Workspace) (input : Input) :
    runTokens reader workspace input =
      opening reader workspace input >>= fun found =>
        Act.each (fun token => print token.shown) found.2 := by
  simp only [runTokens, opening, bind_assoc, pure_bind]

theorem runParse_eq (reader : Reader δ) (workspace : Workspace) (input : Input) (raw : Bool) :
    runParse reader workspace input raw =
      reading reader workspace input >>= fun found =>
        print ((if raw then found.2.toNode else found.2.toNode.simplify).outline 4) := by
  simp only [runParse, reading, opening, documentIn, parsed, bind_assoc, pure_bind]

def showTree (settings : Settings) (document : Document) : Step Unit :=
  ⟨if settings.showTree then [.print (document.toNode.simplify.outline 4), .print ""] else [],
    .ok ()⟩

def report (settings : Settings) (document : Document) : Step String := do
  showTree settings document
  let result ← solveSystem settings document.system
  attempt .overlong (resultText settings result)

theorem equationsOf?_simplify (document : Document) :
    Solver.equationsOf? document.toNode.simplify = .ok document.system :=
  Source.equationsOf?_toNode document

theorem runSolve_eq (reader : Reader δ) (workspace : Workspace) (input : Input)
    (options : SolveOptions) :
    runSolve reader workspace input options =
      reading reader workspace input >>= fun found =>
        report (options.override found.1) found.2 >>= fun text =>
          deliver workspace text options.output := by
  simp only [runSolve, reading, opening, documentIn, parsed, report, bind_assoc, pure_bind]
  refine bind_congr fun given => bind_congr fun text => bind_congr fun tokens =>
    bind_congr fun document => bind_congr fun _ => ?_
  rw [equationsOf?_simplify]
  by_cases shown : (options.override given).showTree = true
  · rw [if_pos shown, showTree, if_pos shown]
    rfl
  · rw [if_neg shown, showTree, if_neg shown]
    rfl

/-! ## What the first steps may do -/

section Confined

variable {ε α : Type} {does : Deed → Prop} {fails : Failure → Prop}

theorem result_attempt {wrap : ε → Failure} {result : Except ε α} {value : α} :
    (attempt wrap result).result = .ok value ↔ result = .ok value :=
  Calls.mapError_eq_ok

theorem confined_attempt {wrap : ε → Failure} {result : Except ε α}
    (failure : ∀ error, result = .error error → fails (wrap error)) :
    (attempt wrap result).Confined does fails := by
  refine Act.confined_ofExcept fun other failed => ?_
  cases result with
  | ok value => cases failed
  | error error =>
      cases failed
      exact failure error rfl

end Confined

theorem settingsFor_confined (reader : Reader δ) (workspace : Workspace) (input : Input) :
    (settingsFor reader workspace input).Confined Deed.IsDetail fun _ => True := by
  dsimp only [settingsFor]
  cases input.config with
  | some path =>
      refine Act.Confined.bind (confined_attempt fun _ _ => trivial) fun settings _ => ?_
      exact Act.confined_pure _
  | none => exact Act.Confined.bind (Act.confined_pure _) fun settings _ => Act.confined_pure _

theorem textOf_confined (workspace : Workspace) (path : String) :
    (textOf workspace path).Confined Deed.IsDetail fun _ => True := by
  refine Act.Confined.bind (confined_attempt fun _ _ => trivial) fun bytes _ => ?_
  exact Act.Confined.bind (confined_attempt fun _ _ => trivial) fun _ _ => Act.confined_pure _

theorem tokensIn_confined (dialect : Source.Dialect) (text : String) :
    (tokensIn dialect text).Confined Deed.IsDetail fun _ => True := by
  refine Act.Confined.bind (confined_attempt fun _ _ => trivial) fun tokens _ => ?_
  exact Act.Confined.bind (Act.confined_deed trivial) fun _ _ => Act.confined_pure _

theorem opening_confined (reader : Reader δ) (workspace : Workspace) (input : Input) :
    (opening reader workspace input).Confined Deed.IsDetail fun _ => True := by
  refine (settingsFor_confined reader workspace input).bind fun settings _ => ?_
  refine (textOf_confined workspace input.file).bind fun text _ => ?_
  exact (tokensIn_confined settings.dialect text).bind fun _ _ => Act.confined_pure _

theorem parsed_confined (tokens : List Token) :
    (parsed tokens).Confined Deed.IsDetail fun _ => True := by
  refine Act.Confined.bind (confined_attempt fun _ _ => trivial) fun _ _ => ?_
  exact Act.Confined.bind (Act.confined_deed trivial) fun _ _ => Act.confined_pure _

theorem reading_confined (reader : Reader δ) (workspace : Workspace) (input : Input) :
    (reading reader workspace input).Confined Deed.IsDetail fun _ => True := by
  refine (opening_confined reader workspace input).bind fun found _ => ?_
  exact (parsed_confined found.2).bind fun _ _ => Act.confined_pure _

/-! ## The commands -/

/-- The command prints nothing and writes no file, ends with code 1 and tells of the failure in a line
of its own; if it is verbose, details come before that line. -/
def RefusedFor (reader : Reader δ) (workspace : Workspace) (failure : Failure) (details : String)
    (task : Task) : Prop :=
  ∀ verbose, Request.perform reader workspace ⟨verbose, task⟩ =
    .ok ⟨1, "", (if verbose then details else "") ++ "Error: " ++ failure.message ++ "\n", none⟩

/-- The command meets a failure that it is not prepared for. -/
def BreaksOff (reader : Reader δ) (workspace : Workspace) (failure : Failure) (task : Task) :
    Prop :=
  ∀ verbose, Request.perform reader workspace ⟨verbose, task⟩ = .error failure

variable {α : Type} {reader : Reader δ} {workspace : Workspace} {input : Input}
  {failure : Failure}

theorem RefusedFor.quiet {details : String} {task : Task}
    (refused : RefusedFor reader workspace failure details task) :
    Request.perform reader workspace ⟨false, task⟩ =
      .ok ⟨1, "", "Error: " ++ failure.message ++ "\n", none⟩ :=
  refused false

theorem refusedFor_of_prefix {first : Step α} {next : α → Step Unit} {task : Task}
    (begins : runTask reader workspace task = first >>= next)
    (details : ∀ deed ∈ first.deeds, deed.IsDetail) (failed : first.result = .error failure)
    (mild : failure.isAbrupt = false) :
    RefusedFor reader workspace failure (Outcome.logged true first.deeds) task := by
  intro verbose
  obtain ⟨printed, logged, written⟩ := onlyDetails first.deeds details
  have shown : Outcome.logged verbose first.deeds =
      if verbose then Outcome.logged true first.deeds else "" := by
    cases verbose with
    | true => rfl
    | false => exact logged
  rw [Request.perform, begins, Act.bind_of_error failed, Outcome.ofStep_of_error rfl, mild, printed,
    shown, written]
  rfl

theorem breaksOff_of_prefix {first : Step α} {next : α → Step Unit} {task : Task}
    (begins : runTask reader workspace task = first >>= next) (failed : first.result = .error failure)
    (abrupt : failure.isAbrupt = true) : BreaksOff reader workspace failure task := by
  intro verbose
  rw [Request.perform, begins, Act.bind_of_error failed, Outcome.ofStep_of_error rfl, if_pos abrupt]

theorem reading_of_error (failed : (opening reader workspace input).result = .error failure) :
    reading reader workspace input = ⟨(opening reader workspace input).deeds, .error failure⟩ :=
  Act.bind_of_error failed _

theorem listing_eq (tokens : List Token) :
    Act.each (fun token : Token => print token.shown) tokens =
      ⟨tokens.flatMap fun token => [.print token.shown], .ok ()⟩ :=
  Act.each_of_ok _ _ tokens fun _ _ => rfl

theorem opening_of_runTokens (failed : (runTokens reader workspace input).result = .error failure) :
    (opening reader workspace input).result = .error failure := by
  rw [runTokens_eq, Act.result_bind_eq_error] at failed
  refine failed.resolve_right ?_
  rintro ⟨found, _, listed⟩
  rw [listing_eq] at listed
  cases listed

/-- A listing of tokens has one line for each. -/
theorem listed_of_runTokens {verbose : Bool} {listed : Outcome} {found : Settings × List Token}
    (begun : (opening reader workspace input).result = .ok found)
    (ended : Request.perform reader workspace ⟨verbose, .tokens input⟩ = .ok listed) :
    listed.stdout = String.join (found.2.map fun token => token.shown ++ "\n") := by
  have whole : runTask reader workspace (.tokens input) = _ := runTokens_eq reader workspace input
  rw [Act.bind_of_ok begun, listing_eq] at whole
  rw [Request.perform, whole, Outcome.ofStep_of_ok rfl] at ended
  cases ended
  obtain ⟨silent, _, _⟩ := onlyDetails _ (opening_confined reader workspace input).deeds
  rw [Outcome.printed_append, silent, String.empty_append, Outcome.printed, List.map_flatMap,
    List.map_eq_flatMap]
  rfl

/-- The tokens are those of the text. -/
theorem exists_text_of_opening {found : Settings × List Token}
    (begun : (opening reader workspace input).result = .ok found) :
    (settingsFor reader workspace input).result = .ok found.1 ∧ ∃ text,
      (textOf workspace input.file).result = .ok text ∧
        Source.lex found.1.dialect text = .ok found.2 := by
  obtain ⟨settings, configured, begun⟩ := Act.result_bind_eq_ok.mp begun
  obtain ⟨text, read, begun⟩ := Act.result_bind_eq_ok.mp begun
  obtain ⟨tokens, cut, done⟩ := Act.result_bind_eq_ok.mp begun
  cases done
  obtain ⟨_, lexed, cut⟩ := Act.result_bind_eq_ok.mp cut
  obtain ⟨_, _, cut⟩ := Act.result_bind_eq_ok.mp cut
  cases cut
  exact ⟨configured, text, read, result_attempt.mp lexed⟩

/-- After the tokens, all that is left to the document is their parsing. -/
theorem result_reading_of_opening {found : Settings × List Token}
    (begun : (opening reader workspace input).result = .ok found) :
    (reading reader workspace input).result =
      ((Source.parse found.2).mapError fun error => .source (.parse error)).map fun document =>
        (found.1, document) := by
  rw [reading, Act.bind_of_ok begun, parsed]
  cases Source.parse found.2 <;> rfl

theorem reading_of_runParse {raw : Bool}
    (failed : (runParse reader workspace input raw).result = .error failure) :
    (reading reader workspace input).result = .error failure := by
  rw [runParse_eq, Act.result_bind_eq_error] at failed
  refine failed.resolve_right ?_
  rintro ⟨found, _, shown⟩
  cases shown

theorem refusedFor_tokens (failed : (opening reader workspace input).result = .error failure)
    (mild : failure.isAbrupt = false) :
    RefusedFor reader workspace failure (Outcome.logged true (opening reader workspace input).deeds)
      (.tokens input) :=
  refusedFor_of_prefix (runTokens_eq reader workspace input)
    (opening_confined reader workspace input).deeds failed mild

theorem refusedFor_parse (failed : (reading reader workspace input).result = .error failure)
    (mild : failure.isAbrupt = false) (raw : Bool) :
    RefusedFor reader workspace failure (Outcome.logged true (reading reader workspace input).deeds)
      (.parse input raw) :=
  refusedFor_of_prefix (runParse_eq reader workspace input raw)
    (reading_confined reader workspace input).deeds failed mild

theorem refusedFor_solve (failed : (reading reader workspace input).result = .error failure)
    (mild : failure.isAbrupt = false) (options : SolveOptions) :
    RefusedFor reader workspace failure (Outcome.logged true (reading reader workspace input).deeds)
      (.solve input options) :=
  refusedFor_of_prefix (runSolve_eq reader workspace input options)
    (reading_confined reader workspace input).deeds failed mild

inductive Parsing (reader : Reader δ) (workspace : Workspace) (input : Input)
    (tokens : List Token) : Prop
  | done {document : Document} (read : Source.parse tokens = .ok document)
      (ends : ∀ verbose raw, ∃ outcome,
        Request.perform reader workspace ⟨verbose, .parse input raw⟩ = .ok outcome ∧
          outcome.exit = 0)
  | refused {error : ParseError} {details : String} (stuck : Source.parse tokens = .error error)
      (told : ∀ raw,
        RefusedFor reader workspace (.source (.parse error)) details (.parse input raw))

theorem parsing_of_opening {found : Settings × List Token}
    (begun : (opening reader workspace input).result = .ok found) :
    Parsing reader workspace input found.2 := by
  have result := result_reading_of_opening begun
  cases parsed : Source.parse found.2 with
  | error error =>
      rw [parsed] at result
      exact .refused parsed (refusedFor_parse result rfl)
  | ok document =>
      rw [parsed] at result
      refine .done parsed fun verbose raw => ?_
      rw [Request.perform, runTask, runParse_eq, Act.bind_of_ok result]
      exact ⟨_, rfl, rfl⟩

/-- The commands refuse an input alike.  What one meets before it has tokens, all meet; what `parse`
meets besides is an error of the document, and `solve` meets it too. -/
structure AcceptAlike (reader : Reader δ) (workspace : Workspace) (input : Input) : Prop where
  tokens : ∀ verbose outcome,
    Request.perform reader workspace ⟨verbose, .tokens input⟩ = .ok outcome → outcome.exit = 1 →
      ∃ failure details, RefusedFor reader workspace failure details (.tokens input) ∧
        (∀ raw, RefusedFor reader workspace failure details (.parse input raw)) ∧
          ∀ options, RefusedFor reader workspace failure details (.solve input options)
  parse : ∀ verbose raw outcome,
    Request.perform reader workspace ⟨verbose, .parse input raw⟩ = .ok outcome → outcome.exit = 1 →
      ∃ failure details, (∀ raw, RefusedFor reader workspace failure details (.parse input raw)) ∧
        ∀ options, RefusedFor reader workspace failure details (.solve input options)
  between : ∀ verbose listed,
    Request.perform reader workspace ⟨verbose, .tokens input⟩ = .ok listed → listed.exit = 0 →
      ∃ given text tokens, (settingsFor reader workspace input).result = .ok given ∧
        (textOf workspace input.file).result = .ok text ∧
        Source.lex given.dialect text = .ok tokens ∧
        listed.stdout = String.join (tokens.map fun token => token.shown ++ "\n") ∧
        Parsing reader workspace input tokens
  abrupt : ∀ verbose failure,
    Request.perform reader workspace ⟨verbose, .tokens input⟩ = .error failure →
      (∀ raw, BreaksOff reader workspace failure (.parse input raw)) ∧
        ∀ options, BreaksOff reader workspace failure (.solve input options)

theorem commands_accept_alike (reader : Reader δ) (workspace : Workspace) (input : Input) :
    AcceptAlike reader workspace input where
  tokens verbose outcome ended exit := by
    obtain ⟨failure, failed, mild⟩ := Outcome.exists_failure_of_exit ended exit
    have begun := opening_of_runTokens failed
    have read := reading_of_error begun
    have stuck : (reading reader workspace input).result = .error failure := by rw [read]
    have same : (opening reader workspace input).deeds = (reading reader workspace input).deeds := by
      rw [read]
    refine ⟨failure, _, ?_, refusedFor_parse stuck mild, refusedFor_solve stuck mild⟩
    rw [← same]
    exact refusedFor_tokens begun mild
  parse verbose raw outcome ended exit := by
    obtain ⟨failure, failed, mild⟩ := Outcome.exists_failure_of_exit ended exit
    have stuck := reading_of_runParse failed
    exact ⟨failure, _, refusedFor_parse stuck mild, refusedFor_solve stuck mild⟩
  between verbose listed ended success := by
    have finished : (runTokens reader workspace input).result = .ok () :=
      Outcome.result_of_exit ended success
    rw [runTokens_eq, Act.result_bind_eq_ok] at finished
    obtain ⟨found, begun, _⟩ := finished
    obtain ⟨configured, text, read, lexed⟩ := exists_text_of_opening begun
    exact ⟨found.1, text, found.2, configured, read, lexed, listed_of_runTokens begun ended,
      parsing_of_opening begun⟩
  abrupt verbose failure broken := by
    obtain ⟨failed, abrupt⟩ := Outcome.result_of_abrupt broken
    have begun := opening_of_runTokens failed
    have stuck : (reading reader workspace input).result = .error failure := by
      rw [reading_of_error begun]
    exact ⟨fun raw => breaksOff_of_prefix (runParse_eq reader workspace input raw) stuck abrupt,
      fun options => breaksOff_of_prefix (runSolve_eq reader workspace input options) stuck abrupt⟩

/-! ## Three inputs that are refused -/

/-- Reads YAML, and has no words for a wrong form. -/
def yamlReader : Reader Yaml.Value := Settings.YamlData.reader fun _ _ => ""

/-- An equation without its sign, and a configuration that asks for an unknown scheme. -/
def desk : Workspace where
  here := ["home"]
  entries :=
    [(["home", "torn.eq"], .file "L1 d1".toUTF8.data.toList),
      (["home", "odd.yaml"], .file "solver: \x7bscheme: gauss\x7d".toUTF8.data.toList)]

theorem opening_lost : (opening yamlReader desk ⟨"lost.eq", none, true⟩).result =
    .error (.file (.refused .missing "lost.eq")) := by
  have absent : desk.open? "lost.eq" = .error (.refused .missing "lost.eq") := by
    rw [Workspace.open?, Workspace.guarded, if_neg (by simp)]
    rfl
  have configured : (settingsFor yamlReader desk ⟨"lost.eq", none, true⟩).result =
      .ok { dialect := ⟨true, true⟩ } := rfl
  rw [opening, Act.bind_of_ok configured, textOf, absent]
  rfl

theorem opening_odd : (opening yamlReader desk ⟨"torn.eq", some "odd.yaml", false⟩).result =
    .error (.settings
      (.invalid "odd.yaml" "'gauss' is not one of ['in_place', 'jacobi']")) := by
  have present : desk.open? "odd.yaml" =
      .ok "solver: \x7bscheme: gauss\x7d".toUTF8.data.toList := by
    rw [Workspace.open?, Workspace.guarded, if_neg (by simp)]
    rfl
  have refused : Settings.ofFile? yamlReader desk "odd.yaml" =
      .error (.invalid "odd.yaml" "'gauss' is not one of ['in_place', 'jacobi']") := by
    rw [Settings.ofFile?, show Files.Path.normal "odd.yaml" = "odd.yaml" by decide +kernel, present]
    decide +kernel
  have configured : (settingsFor yamlReader desk ⟨"torn.eq", some "odd.yaml", false⟩).result =
      .error (.settings
        (.invalid "odd.yaml" "'gauss' is not one of ['in_place', 'jacobi']")) := by
    dsimp only [settingsFor]
    rw [refused]
    rfl
  rw [opening, Act.bind_of_error configured]

def tornTokens : List Token :=
  [⟨.dataPoint, "L1", ⟨1, 1⟩⟩, ⟨.definition, "d1", ⟨1, 4⟩⟩, ⟨.endOfInput, "", ⟨1, 6⟩⟩]

theorem opening_torn : (opening yamlReader desk ⟨"torn.eq", none, false⟩).result =
    .ok ({}, tornTokens) := by
  have configured : (settingsFor yamlReader desk ⟨"torn.eq", none, false⟩).result = .ok {} := rfl
  have present : desk.open? "torn.eq" = .ok "L1 d1".toUTF8.data.toList := by
    rw [Workspace.open?, Workspace.guarded, if_neg (by simp)]
    rfl
  have read : (textOf desk "torn.eq").result = .ok "L1 d1" := by
    rw [textOf, present]
    rfl
  have lexed : Source.lex {} "L1 d1" = .ok tornTokens := by decide +kernel
  rw [opening, Act.bind_of_ok configured, Act.bind_of_ok read, tokensIn, lexed]
  rfl

theorem commands_accept_alike_torn :
    ((∀ raw, Request.perform yamlReader desk ⟨false, .parse ⟨"lost.eq", none, true⟩ raw⟩ =
        .ok ⟨1, "", "Error: [Errno 2] No such file or directory: 'lost.eq'\n", none⟩) ∧
      ∀ options, Request.perform yamlReader desk ⟨false, .solve ⟨"lost.eq", none, true⟩ options⟩ =
        .ok ⟨1, "", "Error: [Errno 2] No such file or directory: 'lost.eq'\n", none⟩) ∧
    ((∀ raw,
        Request.perform yamlReader desk ⟨false, .parse ⟨"torn.eq", some "odd.yaml", false⟩ raw⟩ =
          .ok ⟨1, "", "Error: Invalid config file odd.yaml: " ++
            "'gauss' is not one of ['in_place', 'jacobi']\n", none⟩) ∧
      ∀ options,
        Request.perform yamlReader desk ⟨false, .solve ⟨"torn.eq", some "odd.yaml", false⟩ options⟩ =
          .ok ⟨1, "", "Error: Invalid config file odd.yaml: " ++
            "'gauss' is not one of ['in_place', 'jacobi']\n", none⟩) ∧
    (∃ listed, Request.perform yamlReader desk ⟨false, .tokens ⟨"torn.eq", none, false⟩⟩ =
        .ok listed ∧ listed.exit = 0) ∧
      ∀ raw, Request.perform yamlReader desk ⟨false, .parse ⟨"torn.eq", none, false⟩ raw⟩ =
        .ok ⟨1, "", "Error: Parser error at line 1, column 4: " ++
          "Expected Equals, got Definition 'd1'\n", none⟩ := by
  have alike : ∀ input outcome, Request.perform yamlReader desk ⟨false, .tokens input⟩ = .ok outcome →
      outcome.exit = 1 →
        (∀ raw, Request.perform yamlReader desk ⟨false, .parse input raw⟩ = .ok outcome) ∧
          ∀ options, Request.perform yamlReader desk ⟨false, .solve input options⟩ = .ok outcome := by
    intro input outcome listed exit
    obtain ⟨_, _, tokens, parse, solve⟩ :=
      (commands_accept_alike yamlReader desk input).tokens false outcome listed exit
    rw [← listed, tokens.quiet]
    exact ⟨fun raw => (parse raw).quiet, fun options => (solve options).quiet⟩
  refine ⟨alike _ _ (refusedFor_tokens opening_lost rfl).quiet rfl,
    alike _ _ (refusedFor_tokens opening_odd rfl).quiet rfl, ?_⟩
  have listed : ∃ listed, Request.perform yamlReader desk
      ⟨false, .tokens ⟨"torn.eq", none, false⟩⟩ = .ok listed ∧ listed.exit = 0 := by
    rw [Request.perform, runTask, runTokens_eq, Act.bind_of_ok opening_torn, listing_eq]
    exact ⟨_, rfl, rfl⟩
  refine ⟨listed, fun raw => ?_⟩
  obtain ⟨listed, ended, success⟩ := listed
  obtain ⟨given, text, tokens, configured, read, lexed, _, parsing⟩ :=
    (commands_accept_alike yamlReader desk ⟨"torn.eq", none, false⟩).between false listed ended success
  obtain ⟨own, _, same, cut⟩ := exists_text_of_opening opening_torn
  cases own.symm.trans configured
  cases same.symm.trans read
  cases cut.symm.trans lexed
  have missing : Source.parse tornTokens =
      .error ⟨.expected .equals, some ⟨.definition, "d1", ⟨1, 4⟩⟩⟩ := by
    decide +kernel
  cases parsing with
  | done parsed _ => cases missing.symm.trans parsed
  | refused stuck told =>
      cases missing.symm.trans stuck
      exact (told raw).quiet

end Reaching.Command
