import Reaching.Json.Value
import Reaching.Settings.Data
/-!
Settings from JSON. Of several members of one name the last counts, in the place of the first.
-/
set_option autoImplicit false

namespace Reaching.Settings.JsonData

open Json (Value)
open Text (Codes Unwritable)

/-- Stores a member: a name that is present keeps its place and takes the new value. -/
def store {α : Type} (name : String) (member : α) : List (String × α) → List (String × α)
  | [] => [(name, member)]
  | (head, old) :: rest =>
    if head = name then (head, member) :: rest else (head, old) :: store name member rest

/-- Leaves no name twice in a list of members. -/
def distinct {α : Type} (members : List (String × α)) : List (String × α) :=
  members.foldl (fun stored member => store member.1 member.2 stored) []

mutual

def shown : Value → Except Unwritable String
  | .null => .ok "None"
  | .bool true => .ok "True"
  | .bool false => .ok "False"
  | .int n => Text.writeInteger? n
  | .string text => .ok (Text.quoted text)
  | .array items => do
    return "[" ++ ", ".intercalate (← (shownItems items).mapM id) ++ "]"
  | .object members => do
    let parts ← (distinct (shownMembers members)).mapM fun (name, form) => do
      return Text.quoted name ++ ": " ++ (← form)
    return "\x7b" ++ ", ".intercalate parts ++ "\x7d"

def shownItems : List Value → List (Except Unwritable String)
  | [] => []
  | item :: rest => shown item :: shownItems rest

def shownMembers : List (String × Value) → List (String × Except Unwritable String)
  | [] => []
  | (name, member) :: rest => (name, shown member) :: shownMembers rest

end

def plain : Value → Except Unwritable Codes
  | .string text => .ok (.ofString text)
  | value => (shown value).map .ofString

def isBlank : Value → Bool
  | .null => true
  | .bool b => !b
  | .int n => n = 0
  | .string text => text.isEmpty
  | .array items => items.isEmpty
  | .object members => members.isEmpty

def view : Value → View Value
  | .bool b => .flag b
  | .string text => .word (some text)
  | .object members => .table ((distinct members).map fun (name, member) => (.string name, member))
  | _ => .other

instance : Data Value := ⟨view, isBlank, shown, plain⟩

end Reaching.Settings.JsonData
