import Reaching.Settings.File
import Reaching.Yaml.Data
/-!
Settings from YAML. Ordered maps, pairs and sets are no tables to the settings. Files of YAML are in
UTF-8.
-/
set_option autoImplicit false

namespace Reaching.Settings.YamlData

open Yaml (Collection Item Value)

def viewCollection (collections : Array Collection) : Collection → View Value
  | .table entries =>
    .table (entries.map fun (key, item) => (⟨collections, key⟩, ⟨collections, item⟩))
  | _ => .other

def view (value : Value) : View Value :=
  match value.item with
  | .bool b => .flag b
  | .text codes => .word codes.string?
  | .collection number =>
    viewCollection value.collections (Value.collectionAt value.collections number)
  | _ => .other

instance : Data Value := ⟨view, Value.isBlank, Value.shown, Value.plain⟩

/-- Reads YAML. What to say of a text whose form is wrong is left open: `wording` gives it for the path
and the bytes of a file. -/
def reader (wording : String → List UInt8 → String) : Reader Value where
  read? path bytes := (Value.read? (.ofBytes bytes)).mapError fun fault =>
    ⟨fault.message?.getD (wording path bytes), fault.isAbrupt⟩
  validator := .standard

end Reaching.Settings.YamlData
