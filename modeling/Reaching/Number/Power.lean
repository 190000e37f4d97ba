/-!
Powers of the two bases that numbers are written in.
-/
set_option autoImplicit false

namespace Reaching.Number

def twoTo (n : Nat) : Nat := Nat.pow 2 n

def tenTo (n : Nat) : Nat := Nat.pow 10 n

end Reaching.Number
