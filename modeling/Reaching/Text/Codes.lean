/-!
Texts as code points. Escapes can write surrogates that stand alone, which are no characters, so a
text that is put together from escapes is a list of code points. `chars?` gives its characters if
all of them are.
-/
set_option autoImplicit false

namespace Reaching.Text

/-- A text that may hold lone surrogates. Codes are compared as numbers, as characters are. -/
abbrev Codes := List Nat

namespace Codes

def ofChars (cs : List Char) : Codes := cs.map Char.toNat

def ofString (text : String) : Codes := ofChars text.toList

def chars? (codes : Codes) : Option (List Char) :=
  codes.mapM fun code => if code.isValidChar then some (Char.ofNat code) else none

/-- Tells whether a text does not come after another one in order. -/
def notAfter : Codes → Codes → Bool
  | [], _ => true
  | _ :: _, [] => false
  | a :: left, b :: right => a < b || a = b && notAfter left right

def string? (codes : Codes) : Option String := codes.chars?.map String.ofList

end Codes

end Reaching.Text
