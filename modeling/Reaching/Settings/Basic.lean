import Reaching.Settings.Schema
import Reaching.Solver.Run
import Reaching.Source.Lexer
/-!
The settings of an analysis. Each has a default and can be given on its own, in one of the sections
`lexer`, `solver` and `output`. Blank data gives every default; other data must fit `schema`, which
is left to a validator to find out.
-/
set_option autoImplicit false

namespace Reaching

namespace Settings

inductive Format where
  | text
  | json
  deriving DecidableEq, Repr, Inhabited

namespace Format

def all : List Format := [text, json]

def name : Format → String
  | text => "text"
  | json => "json"

def ofName? (name : String) : Option Format := all.find? (·.name = name)

end Format

def schemeNames : List String := Solver.Scheme.all.map Solver.Scheme.name

def formatNames : List String := Format.all.map Format.name

def schema : Schema :=
  .group [
    ("lexer", .group [("strict", .boolean), ("semicolon_terminator", .boolean)]),
    ("solver", .group [("scheme", .choice schemeNames), ("trace", .boolean)]),
    ("output", .group [("format", .choice formatNames), ("show_tree", .boolean)])]

end Settings

structure Settings where
  dialect : Source.Dialect := {}
  scheme : Solver.Scheme := .inPlace
  trace : Bool := false
  format : Settings.Format := .text
  showTree : Bool := false
  deriving DecidableEq, Repr, Inhabited

namespace Settings

variable {α : Type} [Data α]

def at? (data : α) (part key : String) : Option α := do
  Data.get? key (← Data.get? part data)

def flag (data : α) (part key : String) (absent : Bool) : Bool :=
  match (at? data part key).map Data.view with
  | some (.flag value) => value
  | _ => absent

def word? (data : α) (part key : String) : Option String :=
  match (at? data part key).map Data.view with
  | some (.word text) => text
  | _ => none

/-- Takes each setting from data that fits the schema, or its default where none is given. -/
def read (data : α) : Settings where
  dialect :=
    ⟨flag data "lexer" "strict" false, flag data "lexer" "semicolon_terminator" true⟩
  scheme := ((word? data "solver" "scheme").bind fun name =>
    (Solver.Scheme.ofName? name).toOption).getD .inPlace
  trace := flag data "solver" "trace" false
  format := ((word? data "output" "format").bind Format.ofName?).getD .text
  showTree := flag data "output" "show_tree" false

/-- Why data gives no settings: a violation of the schema, with what it is reported as, or data of
which a report cannot be written. -/
inductive Refusal (α : Type) where
  | violated (violation : Violation α) (message : String)
  | unwritable (error : Text.Unwritable)
  deriving Repr

/-- Chooses the violation to report. All of them are put into words before one is chosen. -/
def refusal? (validator : Validator α) (violations : List (Violation α)) : Option (Refusal α) := do
  let violation ← validator.reported? violations
  match violations.mapM fun violation => violation.breach.message, violation.breach.message with
  | .ok _, .ok message => return .violated violation message
  | .error error, _ | _, .error error => return .unwritable error

/-- Reads settings; data that does not fit the schema is refused with one of its violations. -/
def ofData? (validator : Validator α) (data : α) : Except (Refusal α) Settings :=
  if Data.isBlank data then .ok {}
  else match refusal? validator (validator.violations schema data) with
    | some refusal => .error refusal
    | none => .ok (read data)

end Settings

end Reaching
