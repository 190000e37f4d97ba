import Reaching.Files.Workspace
import Reaching.Settings.Basic
/-!
Settings from configuration files. Two things are left to a `Reader`: to take data from the bytes of a
file, and to hold the data against the schema. A file is named in messages by the normal form of its
path, and what is wrong with it is the first of: it cannot be opened, its bytes are no data, its data
does not fit the schema.
-/
set_option autoImplicit false

namespace Reaching.Settings

/-- Why bytes are no data. One who reads settings is prepared for a fault unless it is abrupt. -/
structure Fault where
  message : String
  isAbrupt : Bool
  deriving DecidableEq, Repr

/-- What configuration files are read with. It is told the path of a file too, for its messages. -/
structure Reader (α : Type) where
  read? : String → List UInt8 → Except Fault α
  validator : Validator α

inductive FileError where
  | unopened (fault : Files.FileFault)
  | unreadable (fault : Fault)
  | unwritable (error : Text.Unwritable)
  | invalid (path : String) (message : String)
  deriving DecidableEq, Repr

namespace FileError

def message : FileError → String
  | unopened fault => fault.message
  | unreadable fault => fault.message
  | unwritable error => error.message
  | invalid path message => "Invalid config file " ++ path ++ ": " ++ message

def ofRefusal {α : Type} (path : String) : Refusal α → FileError
  | .violated _ message => invalid path message
  | .unwritable error => unwritable error

end FileError

variable {α : Type} [Data α]

/-- Reads the settings in a file, which must exist. -/
def ofFile? (reader : Reader α) (workspace : Files.Workspace) (path : String) :
    Except FileError Settings := do
  let path := Files.Path.normal path
  let bytes ← (workspace.open? path).mapError .unopened
  let data ← (reader.read? path bytes).mapError .unreadable
  (ofData? reader.validator data).mapError (.ofRefusal path)

/-- Reads the settings in a file; one that is absent, or none, gives every default. -/
def load? (reader : Reader α) (workspace : Files.Workspace) :
    Option String → Except FileError Settings
  | none => .ok {}
  | some path => do
    if path.isEmpty then return {}
    if ← (workspace.exists? (Files.Path.normal path)).mapError .unopened then
      ofFile? reader workspace path
    else return {}

end Reaching.Settings
