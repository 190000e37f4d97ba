import Reaching.Files.Path
import Reaching.Text.Quoted
import Reaching.Text.Utf8
/-!
The files that a command can see. A `Workspace` holds files and directories, each under its place:
the names that lead to it from the root. Whatever contains something else is a directory, and so are
the root and the place that relative paths start from.

`open?` follows a path name by name and tells why it leads to no file. `openToWrite?` allows the
last name to be missing.
-/
set_option autoImplicit false

namespace Reaching.Files

inductive Entry where
  | file (content : List UInt8)
  | directory
  deriving DecidableEq, Repr

inductive Refusal where
  | missing
  | isDirectory
  | notDirectory
  | nameTooLong
  deriving DecidableEq, Repr

inductive FileFault where
  | refused (refusal : Refusal) (path : String)
  | nullCharacter
  deriving DecidableEq, Repr

namespace Refusal

def message : Refusal → String
  | missing => "[Errno 2] No such file or directory"
  | isDirectory => "[Errno 21] Is a directory"
  | notDirectory => "[Errno 20] Not a directory"
  | nameTooLong => "[Errno 36] File name too long"

end Refusal

def FileFault.message : FileFault → String
  | refused refusal path => refusal.message ++ ": " ++ Text.quoted path
  | nullCharacter => "embedded null byte"

abbrev Place := List String

structure Workspace where
  here : Place
  entries : List (Place × Entry)

namespace Workspace

def find? (workspace : Workspace) (place : Place) : Option Entry :=
  match workspace.entries.lookup place with
  | some entry => some entry
  | none =>
    if (workspace.here :: workspace.entries.map Prod.fst).any place.isPrefixOf then
      some .directory
    else none

def requireDirectory (workspace : Workspace) (place : Place) : Except Refusal Unit :=
  match workspace.find? place with
  | some .directory => .ok ()
  | some (.file _) => .error .notDirectory
  | none => .error .missing

/-- Follows the pieces of a path from a place. Nothing is above the root but the root itself. -/
def follow (workspace : Workspace) : Place → List String → Except Refusal Place
  | place, [] => .ok place
  | place, piece :: rest => do
    workspace.requireDirectory place
    if Path.addsNothing piece then workspace.follow place rest
    else if piece = ".." then workspace.follow place.dropLast rest
    else if piece.utf8ByteSize > 255 then .error .nameTooLong
    else workspace.follow (place ++ [piece]) rest

def origin (workspace : Workspace) (path : String) : Place :=
  if Path.root path = "" then workspace.here else []

/-- Finds where a path leads. -/
def locate (workspace : Workspace) (path : String) : Except Refusal Place :=
  if path.isEmpty then .error .missing
  else if path.utf8ByteSize > 4095 then .error .nameTooLong
  else workspace.follow (workspace.origin path) (Path.pieces path)

/-- Lists the places that a path leads through, if all that it names is there. -/
def route (workspace : Workspace) (path : String) : List Place :=
  (Path.pieces path).foldl (fun places piece =>
    let place := places.headD []
    if Path.addsNothing piece then places
    else if piece = ".." then place.dropLast :: places
    else (place ++ [piece]) :: places) [workspace.origin path]

def guarded {α : Type} (path : String) (found : Except Refusal α) : Except FileFault α :=
  if path.contains '\x00' then .error .nullCharacter
  else found.mapError fun refusal => .refused refusal path

/-- Gives the bytes of the file that a path leads to. -/
def open? (workspace : Workspace) (path : String) : Except FileFault (List UInt8) :=
  guarded path do
    match workspace.find? (← workspace.locate path) with
    | some (.file content) => .ok content
    | some .directory => .error .isDirectory
    | none => .error .missing

/-- Gives the place of the file that a path leads to, which may be new. -/
def openToWrite? (workspace : Workspace) (path : String) : Except FileFault Place :=
  guarded path do
    let place ← workspace.locate path
    match workspace.find? place with
    | some .directory => .error .isDirectory
    | _ => .ok place

/-- Tells whether a path leads to something; a name too long to look up is no answer. -/
def exists? (workspace : Workspace) (path : String) : Except FileFault Bool :=
  match guarded path (workspace.locate path) with
  | .ok place => .ok (workspace.find? place).isSome
  | .error (.refused .nameTooLong path) => .error (.refused .nameTooLong path)
  | .error _ => .ok false

end Workspace

end Reaching.Files
