import Reaching.Command.Act
import Reaching.Command.Request
import Reaching.Report.Record
import Reaching.Settings.File
import Reaching.Source.Text
import Reaching.Node.Outline
/-!
Carrying out a request. The commands share their first steps: settings, which are read with a
`Settings.Reader`, then the text of the equation file, then its tokens and, but for the listing of
tokens, its document. `solve` goes on to
show the tree, to make the passes and to deliver the result, which is rendered in full before the
file that takes it is opened.

`perform` gives the `Outcome` of a whole command line: what was printed and logged, the exit code
and the file that was written. A failure that the program is not prepared for breaks it off and is
the answer itself.
-/
set_option autoImplicit false

namespace Reaching.Command

open Files (Workspace)
open Settings (Format)
open Source (Dialect Document SourceError Token)
open Solver (Scheme State)

inductive Failure where
  | settings (error : Settings.FileError)
  | file (fault : Files.FileFault)
  | undecodable (error : Text.DecodeError)
  | source (error : SourceError)
  | noSystem (error : Solver.NoSystem)
  | undefined (error : Solver.Undefined)
  | overlong (error : Text.Overlong)
  | noDestination
  | unsettled

def Failure.message : Failure → String
  | settings error => error.message
  | file fault => fault.message
  | undecodable error => error.message
  | source error => error.message
  | noSystem error => error.message
  | undefined error => error.message
  | overlong error => error.message
  | noDestination => "expected str, bytes or os.PathLike object, not list"
  | unsettled => "The passes never settle"

/-- Tells whether a failure breaks the program off. -/
def Failure.isAbrupt : Failure → Bool
  | settings (.unreadable fault) => fault.isAbrupt
  | noDestination => true
  | _ => false

abbrev Step := Act Failure

def attempt {ε α : Type} (wrap : ε → Failure) (result : Except ε α) : Step α :=
  .ofExcept (result.mapError wrap)

def print (line : String) : Step Unit := .deed (.print line)

def log (level : Level) (source message : String) : Step Unit := .deed (.log level source message)

variable {α : Type} [Settings.Data α]

/-- Reads the settings that an input names and makes them strict if it asks for that. -/
def settingsFor (reader : Settings.Reader α) (workspace : Workspace) (input : Input) :
    Step Settings := do
  let settings ← match input.config with
    | some path => attempt .settings (Settings.ofFile? reader workspace path)
    | none => pure {}
  return if input.strict then { settings with dialect := { settings.dialect with strict := true } }
    else settings

/-- Reads a text file, in which every kind of line end is a newline. -/
def textOf (workspace : Workspace) (path : String) : Step String := do
  let bytes ← attempt .file (workspace.open? path)
  let cs ← attempt .undecodable (Text.decode bytes)
  return String.ofList (Text.newlines cs)

def lexerLog : String := "dfeq_dsl.parser"

def solverLog : String := "dfeq_dsl.solver"

def tokensIn (dialect : Dialect) (text : String) : Step (List Token) := do
  let tokens ← attempt (fun error => .source (.lex error)) (Source.lex dialect text)
  log .debug lexerLog ("Lexed " ++ toString tokens.length ++ " tokens")
  return tokens

def documentIn (dialect : Dialect) (text : String) : Step Document := do
  let tokens ← tokensIn dialect text
  let document ← attempt (fun error => .source (.parse error)) (Source.parse tokens)
  log .debug lexerLog ("Parsed " ++ toString document.length ++ " equations")
  return document

def runTokens (reader : Settings.Reader α) (workspace : Workspace) (input : Input) :
    Step Unit := do
  let settings ← settingsFor reader workspace input
  let text ← textOf workspace input.file
  let tokens ← tokensIn settings.dialect text
  Act.each (fun token => print token.shown) tokens

def runParse (reader : Settings.Reader α) (workspace : Workspace) (input : Input) (raw : Bool) :
    Step Unit := do
  let settings ← settingsFor reader workspace input
  let text ← textOf workspace input.file
  let document ← documentIn settings.dialect text
  print ((if raw then document.toNode else document.toNode.simplify).outline 4)

/-- Lets the options of a command stand before the settings. -/
def SolveOptions.override (options : SolveOptions) (settings : Settings) : Settings where
  dialect := settings.dialect
  scheme := options.scheme.getD settings.scheme
  trace := options.trace || settings.trace
  format := options.format.getD settings.format
  showTree := options.tree || settings.showTree

/-- Reports one pass, and shows its state if a text trace is asked for. -/
def reportPass (settings : Settings) (count : Nat) (entry : State × Nat) : Step Unit := do
  let number := entry.2 + 1
  let verdict := if number = count then "stable" else "changed"
  log .debug solverLog
    ("Pass " ++ toString number ++ " (" ++ settings.scheme.name ++ "): " ++ verdict)
  if settings.trace && settings.format = .text then
    print (← attempt .overlong (Report.iterationText? number entry.1))
    print ""

/-- Solves a system and tells of its passes. -/
def solveSystem (settings : Settings) (equations : List Solver.Equation) : Step Solver.Result := do
  Act.each (fun name => log .warning solverLog (Solver.repeatedWarning name))
    (Solver.repeated equations)
  match ← attempt .undefined (Solver.solve settings.scheme equations) with
  | none => .fail .unsettled
  | some result =>
    Act.each (reportPass settings result.passes) result.snapshots.zipIdx
    log .info solverLog ("Converged after " ++ toString result.iterations ++ " iteration(s), " ++
      toString result.passes ++ " pass(es), " ++ toString result.solution.entries.length ++
      " data points")
    return result

/-- Renders the result of a run in the format that is asked for. -/
def resultText (settings : Settings) (result : Solver.Result) : Except Text.Overlong String :=
  match settings.format with
  | .json =>
    Report.recordText? result.iterations result.passes result.solution
      (if settings.trace then result.snapshots else [])
  | .text => do
    return (← Report.solutionText? result.solution) ++ "\nConverged after " ++
      toString result.iterations ++ " iteration(s) (" ++ toString result.passes ++ " passes)"

/-- Prints a text, or writes it to a file and says so. -/
def deliver (workspace : Workspace) (text : String) : Destination → Step Unit
  | .stream => print text
  | .nowhere => .fail .noDestination
  | .file path => do
    let place ← attempt .file (workspace.openToWrite? (Files.Path.normal path))
    Act.deed (.write place (text ++ "\n"))
    Act.deed (.notice ("Output written to " ++ path))

def runSolve (reader : Settings.Reader α) (workspace : Workspace) (input : Input)
    (options : SolveOptions) : Step Unit := do
  let given ← settingsFor reader workspace input
  let settings := options.override given
  let text ← textOf workspace input.file
  let document ← documentIn settings.dialect text
  let tree := document.toNode.simplify
  if settings.showTree then
    print (tree.outline 4)
    print ""
  let equations ← attempt .noSystem (Solver.equationsOf? tree)
  let result ← solveSystem settings equations
  let text ← attempt .overlong (resultText settings result)
  deliver workspace text options.output

def versionText : String := "dfeq-dsl version 0.1.0"

def runTask (reader : Settings.Reader α) (workspace : Workspace) : Task → Step Unit
  | .version => print versionText
  | .tokens input => runTokens reader workspace input
  | .parse input raw => runParse reader workspace input raw
  | .solve input options => runSolve reader workspace input options

structure Outcome where
  exit : Nat
  stdout : String
  stderr : String
  written : Option (List String × String)
  deriving DecidableEq, Repr

namespace Outcome

def stdoutOf : Deed → String
  | .print line => line ++ "\n"
  | _ => ""

/-- Shows what goes to the error stream; details are shown only on request. -/
def stderrOf (verbose : Bool) : Deed → String
  | .log level source message =>
    if verbose || level = .warning then level.name ++ " " ++ source ++ ": " ++ message ++ "\n"
    else ""
  | .notice line => line ++ "\n"
  | _ => ""

def writtenBy : Deed → Option (List String × String)
  | .write place content => some (place, content)
  | _ => none

def ofStep (verbose : Bool) (step : Step Unit) : Except Failure Outcome :=
  let stdout := String.join (step.deeds.map stdoutOf)
  let stderr := String.join (step.deeds.map (stderrOf verbose))
  let written := step.deeds.findSome? writtenBy
  match step.result with
  | .ok () => .ok ⟨0, stdout, stderr, written⟩
  | .error failure =>
    if failure.isAbrupt then .error failure
    else .ok ⟨1, stdout, stderr ++ "Error: " ++ failure.message ++ "\n", written⟩

end Outcome

def Request.perform (reader : Settings.Reader α) (workspace : Workspace) (request : Request) :
    Except Failure Outcome :=
  Outcome.ofStep request.verbose (runTask reader workspace request.task)

/-- Carries out a command line. -/
def perform (reader : Settings.Reader α) (workspace : Workspace) (arguments : List String) :
    Except Failure Outcome :=
  match Request.ofArguments? arguments with
  | .ok request => request.perform reader workspace
  | .error (.page page) => .ok ⟨0, page.text, "", none⟩
  | .error (.refusal page message) => .ok ⟨2, "", page.refusal message, none⟩

end Reaching.Command
