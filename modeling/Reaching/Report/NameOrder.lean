import Reaching.Text.Numeral
/-!
The order in which names are listed. A name that ends in decimal digits is ordered by the number
they write, after every name that does not; equal numbers are ordered by the whole name, character
by character. One newline at the very end of a name does not hide the digits before it.

A number that is too long is not read; of several names in a list that have one, the first is
reported.
-/
set_option autoImplicit false

namespace Reaching.Report

open Text (Overlong)

structure NameKey where
  numbered : Bool
  number : Nat
  name : String
  deriving DecidableEq, Repr

namespace NameKey

/-- Gives the digits at the end of a name. -/
def suffix (name : String) : List Char :=
  let reversed := match name.toList.reverse with
    | '\n' :: rest => rest
    | all => all
  (reversed.takeWhile Text.isDecimalDigit).reverse

def ofName? (name : String) : Except Overlong NameKey :=
  match suffix name with
  | [] => .ok ⟨false, 0, name⟩
  | digits =>
    match Text.decimal? digits with
    | .ok number => .ok ⟨true, number, name⟩
    | .error e => .error e

def le (left right : NameKey) : Bool :=
  if left.numbered = right.numbered then
    if left.number = right.number then left.name ≤ right.name else left.number < right.number
  else !left.numbered

end NameKey

def sortedNames? (names : List String) : Except Overlong (List String) := do
  let keys ← names.mapM NameKey.ofName?
  return (keys.mergeSort NameKey.le).map NameKey.name

end Reaching.Report
