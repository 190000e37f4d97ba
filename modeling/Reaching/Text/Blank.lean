/-!
Characters that stand for blank space around a number: tab, newline, vertical tab, form feed, return
and space, and the spaces and separators beyond ASCII.
-/
set_option autoImplicit false

namespace Reaching.Text

/-- Every blank beyond ASCII, as closed intervals of code points in ascending order. -/
def wideBlanks : List (Nat × Nat) := [
    (0x85, 0x85), (0xA0, 0xA0), (0x1680, 0x1680), (0x2000, 0x200A), (0x2028, 0x2029),
    (0x202F, 0x202F), (0x205F, 0x205F), (0x3000, 0x3000)]

def isWideBlank (code : Nat) : Bool :=
  wideBlanks.any fun range => range.1 ≤ code && code ≤ range.2

def isAsciiBlank (c : Char) : Bool :=
  c = ' ' || '\t' ≤ c && c ≤ '\r'

end Reaching.Text
