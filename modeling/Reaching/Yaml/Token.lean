import Reaching.Text.Codes
/-!
Tokens of a YAML 1.1 text.

Block collections have no brackets of their own in the text; their tokens stand where the
indentation starts and ends them. A `key` token stands before every key of a mapping, also one that
nothing in the text marks.
-/
set_option autoImplicit false

namespace Reaching.Yaml

inductive Directive where
  | version (major : Nat)
  | tag (handle replacement : String)
  | other
  deriving DecidableEq, Repr

inductive Token where
  | directive (directive : Directive)
  | documentStart
  | documentEnd
  | streamEnd
  | blockSequenceStart
  | blockMappingStart
  | blockEnd
  | flowSequenceStart
  | flowSequenceEnd
  | flowMappingStart
  | flowMappingEnd
  | blockEntry
  | flowEntry
  | key
  | value
  | reference (name : String)
  | anchor (name : String)
  | tag (handle : Option String) (suffix : String)
  | scalar (text : Text.Codes) (bare : Bool)
  deriving DecidableEq, Repr

end Reaching.Yaml
