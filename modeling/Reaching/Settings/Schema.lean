import Reaching.Settings.Data
/-!
What settings may look like, and what is wrong with settings that do not.

A `Schema` asks for a truth value, for one of some words, or for a table with known keys only, each
with a schema of its own and none required. A `Validator` lists the rules that a value breaks, each
together with the keys that lead to the offending part, and picks the one to report. The `standard`
one lists every such rule (`Schema.violations`) and reports the violation at the shortest path, among
those the one whose path comes last in order, and at one path the first that is listed
(`Violation.reported?`).
-/
set_option autoImplicit false

namespace Reaching.Settings

inductive Schema where
  | boolean
  | choice (options : List String)
  | group (properties : List (String × Schema))

inductive Breach (α : Type) where
  | notOfType (found : α) (type : String)
  | notOneOf (found : α) (options : List String)
  | unexpected (keys : List α)
  deriving Repr

namespace Breach

variable {α : Type} [Data α]

def optionsText (options : List String) : String :=
  "[" ++ ", ".intercalate (options.map Text.quoted) ++ "]"

def unexpectedText (keys : List String) : String :=
  "Additional properties are not allowed (" ++ ", ".intercalate keys ++
    (if keys.length = 1 then " was" else " were") ++ " unexpected)"

/-- Sorts keys by their plain forms. -/
def sortedKeys (keys : List α) : Except Text.Unwritable (List α) := do
  let forms ← keys.mapM fun key => do return (← Data.plain key, key)
  return (forms.mergeSort fun left right => left.1.notAfter right.1).map Prod.snd

def message : Breach α → Except Text.Unwritable String
  | notOfType found type => do return (← Data.shown found) ++ " is not of type '" ++ type ++ "'"
  | notOneOf found options => do
    return (← Data.shown found) ++ " is not one of " ++ optionsText options
  | unexpected keys => do return unexpectedText (← (← sortedKeys keys).mapM Data.shown)

end Breach

structure Violation (α : Type) where
  path : List String
  breach : Breach α
  deriving Repr

namespace Violation

variable {α : Type}

def under (key : String) (violation : Violation α) : Violation α :=
  ⟨key :: violation.path, violation.breach⟩

/-- Tells whether a violation is reported rather than one that is listed before it. -/
def outranks (violation other : Violation α) : Bool :=
  violation.path.length < other.path.length ||
    violation.path.length = other.path.length && other.path < violation.path

/-- Picks the violation to report. -/
def reported? : List (Violation α) → Option (Violation α)
  | [] => none
  | first :: rest =>
    some (rest.foldl (fun best next => if next.outranks best then next else best) first)

end Violation

namespace Schema

variable {α : Type} [Data α]

mutual

def violations (data : α) : Schema → List (Violation α)
  | .boolean =>
    match Data.view data with
    | .flag _ => []
    | _ => [⟨[], .notOfType data "boolean"⟩]
  | .choice options =>
    match Data.view data with
    | .word text =>
      if options.any fun name => text = some name then [] else [⟨[], .notOneOf data options⟩]
    | _ => [⟨[], .notOfType data "string"⟩, ⟨[], .notOneOf data options⟩]
  | .group properties =>
    match Data.view data with
    | .table entries =>
      let unexpected := (entries.map Prod.fst).filter fun key =>
        !properties.any fun property => Data.isWord property.1 key
      violationsIn data properties ++
        if unexpected.isEmpty then [] else [⟨[], .unexpected unexpected⟩]
    | _ => [⟨[], .notOfType data "object"⟩]

def violationsIn (data : α) : List (String × Schema) → List (Violation α)
  | [] => []
  | (key, schema) :: rest =>
    (match Data.get? key data with
      | some part => (violations part schema).map (Violation.under key)
      | none => []) ++ violationsIn data rest

end

end Schema

/-- What finds fault with data: it lists violations of a schema, and picks one of a list. -/
structure Validator (α : Type) where
  violations : Schema → α → List (Violation α)
  reported? : List (Violation α) → Option (Violation α)

def Validator.standard {α : Type} [Data α] : Validator α where
  violations schema data := schema.violations data
  reported? := Violation.reported?

end Reaching.Settings
