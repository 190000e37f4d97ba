/-!
JSON values whose numbers are integers. The members of an object keep the order in which they were
written, and a name may stand more than once.
-/
set_option autoImplicit false

namespace Reaching.Json

inductive Value where
  | null
  | bool (value : Bool)
  | int (value : Int)
  | string (value : String)
  | array (items : List Value)
  | object (members : List (String × Value))
  deriving Repr, Inhabited

namespace Value

/-- Looks up a member of an object; the last of several with one name counts. -/
def get? (name : String) : Value → Option Value
  | object members => (members.reverse.find? (·.1 = name)).map Prod.snd
  | _ => none

def strings (texts : List String) : Value :=
  array (texts.map string)

end Value

end Reaching.Json
