import Reaching.Text.Numeral
/-!
What settings need to know of the data that they are read from. A format of data has a type of
values; `Data` tells what a value of it is to the settings, whether it stands for nothing at all,
and how messages quote it. Quoting fails if it would have to write an integer that is too long.
-/
set_option autoImplicit false

namespace Reaching.Settings

/-- A value as settings see it. A word is absent if it is a text that no string can hold, and a
table has entries of any kind, in the order in which their keys came and with no key twice. -/
inductive View (α : Type) where
  | flag (value : Bool)
  | word (text : Option String)
  | table (entries : List (α × α))
  | other
  deriving Repr

/-- A type of data. `isBlank` tells whether a value stands for nothing: no value, false, zero or
something empty. `shown` is the form in which messages quote a value, and keys are sorted by their
`plain` form, in which a text stands without quotes. -/
class Data (α : Type) where
  view : α → View α
  isBlank : α → Bool
  shown : α → Except Text.Unwritable String
  plain : α → Except Text.Unwritable Text.Codes

namespace Data

variable {α : Type} [Data α]

def entries (data : α) : List (α × α) :=
  match view data with
  | .table entries => entries
  | _ => []

def isWord (name : String) (data : α) : Bool :=
  match view data with
  | .word (some text) => text = name
  | _ => false

/-- Looks up a key of a table. -/
def get? (name : String) (data : α) : Option α :=
  ((entries data).find? fun entry => isWord name entry.1).map Prod.snd

end Data

end Reaching.Settings
