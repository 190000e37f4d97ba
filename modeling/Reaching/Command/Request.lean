import Reaching.Command.Arguments
import Reaching.Command.Page
import Reaching.Settings.Basic
/-!
What a command line asks for. A command line that asks for nothing that can be done is answered at
once: with a page, or with a refusal.
-/
set_option autoImplicit false

namespace Reaching.Command

/-- The equation file to read, the configuration file if one is named, and whether to be strict
whatever that file says. -/
structure Input where
  file : String
  config : Option String := none
  strict : Bool := false
  deriving DecidableEq, Repr, Inhabited

/-- Where a result goes: to the output stream, to a file, or nowhere, if the option that names the
file was given without a value. -/
inductive Destination where
  | stream
  | file (path : String)
  | nowhere
  deriving DecidableEq, Repr, Inhabited

/-- The settings that a solve command gives itself, and where its result goes. -/
structure SolveOptions where
  scheme : Option Solver.Scheme := none
  trace : Bool := false
  tree : Bool := false
  format : Option Settings.Format := none
  output : Destination := .stream
  deriving DecidableEq, Repr, Inhabited

inductive Task where
  | version
  | tokens (input : Input)
  | parse (input : Input) (raw : Bool)
  | solve (input : Input) (options : SolveOptions)
  deriving DecidableEq, Repr

structure Request where
  verbose : Bool
  task : Task
  deriving DecidableEq, Repr

inductive Answer where
  | page (page : Page)
  | refusal (page : Page) (message : String)
  deriving Repr

namespace Request

def help : Flag := { names := ["-h", "--help"], isHelp := true }

def config : Flag := { names := ["-c", "--config"], takesValue := true }

def strict : Flag := { names := ["--strict"] }

def commands : List String := ["tokens", "parse", "solve", "version"]

def programGrammar : Grammar := ⟨[help, { names := ["-v", "--verbose"] }], .rest⟩

def tokensGrammar : Grammar := ⟨[help, config, strict], .one "input_file"⟩

def parseGrammar : Grammar := ⟨[help, config, { names := ["--raw"] }, strict], .one "input_file"⟩

def solveGrammar : Grammar where
  flags := [help, config,
    { names := ["--scheme"], takesValue := true, choices := Settings.schemeNames },
    { names := ["--trace"] }, { names := ["--tree"] },
    { names := ["-f", "--format"], takesValue := true, choices := Settings.formatNames },
    strict, { names := ["-o", "--output"], takesValue := true }]
  operands := .one "input_file"

def versionGrammar : Grammar := ⟨[help], .none⟩

def inputOf (taken : Taken) : Input where
  file := (taken.operands.bind List.head?).getD ""
  config := (taken.value? "--config").filter (· ≠ "")
  strict := taken.has "--strict"

def destinationOf (taken : Taken) : Destination :=
  match taken.last? "--output" with
  | none => .stream
  | some ⟨_, none⟩ => .nowhere
  | some ⟨_, some path⟩ => if path = "-" then .stream else .file path

def solveOptionsOf (taken : Taken) : SolveOptions where
  scheme := (taken.value? "--scheme").bind fun name => (Solver.Scheme.ofName? name).toOption
  trace := taken.has "--trace"
  tree := taken.has "--tree"
  format := (taken.value? "--format").bind Settings.Format.ofName?
  output := destinationOf taken

def answered {α : Type} (page : Page) (result : Except Stop α) : Except Answer α :=
  result.mapError fun
    | .help => .page page
    | .refused message => .refusal page message

/-- Reads the arguments of one command, and gives the task with the words left over. -/
def taskOf (command : String) (texts : List String) : Except Answer (Task × List String) :=
  match command with
  | "tokens" => do
    let taken ← answered .tokens (tokensGrammar.parse texts)
    return (.tokens (inputOf taken), taken.leftOver)
  | "parse" => do
    let taken ← answered .parse (parseGrammar.parse texts)
    return (.parse (inputOf taken) (taken.has "--raw"), taken.leftOver)
  | "solve" => do
    let taken ← answered .solve (solveGrammar.parse texts)
    return (.solve (inputOf taken) (solveOptionsOf taken), taken.leftOver)
  | "version" => do
    let taken ← answered .version (versionGrammar.parse texts)
    return (.version, taken.leftOver)
  | other =>
    .error (.refusal .overview ("argument command: " ++ choiceMessage other commands))

/-- Refuses a command line of which words are left over. -/
def unlessLeft {α : Type} (words : List String) (result : Except Answer α) : Except Answer α :=
  if words.isEmpty then result
  else .error (.refusal .overview ("unrecognized arguments: " ++ " ".intercalate words))

/-- Reads a command line. One that names no command asks for the overview. -/
def ofArguments? (texts : List String) : Except Answer Request := do
  let taken ← answered .overview (programGrammar.parse texts)
  match taken.operands with
  | some (command :: rest) =>
    let (task, words) ← taskOf command rest
    unlessLeft (taken.leftOver ++ words) (.ok ⟨taken.has "--verbose", task⟩)
  | _ => unlessLeft taken.leftOver (.error (.page .overview))

end Request

end Reaching.Command
