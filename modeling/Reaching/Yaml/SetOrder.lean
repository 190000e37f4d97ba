import Reaching.Yaml.Value
/-!
The order in which a set lists its members. A set of numbers lists them by their slots in a table,
which is larger than twice their count: a number asks first for the slot that its residue names,
then for those after it, and then for one further on. Other sets list their members as they were
given.
-/
set_option autoImplicit false

namespace Reaching.Yaml

namespace SetOrder

open Number (Binary64)

/-- Residues of numbers are taken by this prime. Two to the 61st power leaves one. -/
def modulus : Nat := Number.twoTo 61 - 1

def infinityResidue : Int := 314159

def signed (negative : Bool) (residue : Nat) : Int :=
  if negative then -residue else residue

/-- Gives the residue of a number with its sign; what is not finite has one by agreement. -/
def residue? : Identity → Option Int
  | .number n => some (signed (n < 0) (n.natAbs % modulus))
  | .fraction (.finite negative significand exponent) =>
    some (signed negative (significand * Number.twoTo (Int.emod exponent 61).toNat % modulus))
  | .fraction (.infinite negative) => some (if negative then -infinityResidue else infinityResidue)
  | _ => none

/-- Makes a residue a word of 64 bits. No word stands for minus one, whose place minus two takes. -/
def wordOf (residue : Int) : Nat :=
  (Int.emod (if residue = -1 then -2 else residue) (Number.twoTo 64)).toNat

/-- Gives the least power of two that is larger than twice a count, or eight. -/
def tableSize (count : Nat) : Nat :=
  if count < 5 then 8 else Number.twoTo ((2 * count).log2 + 1)

/-- The number of slots after the first that are asked for if they are all in the table. -/
def neighbours : Nat := 9

/-- Finds a free slot. -/
def findSlot (size : Nat) (taken : List Nat) : Nat → Nat → Nat → Nat
  | 0, _, slot => slot
  | fuel + 1, perturbation, slot =>
    let span := if slot + neighbours < size then neighbours + 1 else 1
    match (List.range span).find? fun ahead => !taken.contains (slot + ahead) with
    | some ahead => slot + ahead
    | none =>
      let perturbation := perturbation / 32
      findSlot size taken fuel perturbation ((slot * 5 + 1 + perturbation) % size)

def slotsOf (size : Nat) (words : List Nat) : List Nat :=
  words.foldl (fun taken word =>
    taken ++ [findSlot size taken (size + 64) word (word % size)]) []

def ordered (members : List Item) : List Item :=
  match members.mapM fun member => residue? member.identity with
  | none => members
  | some residues =>
    let slots := slotsOf (tableSize members.length) (residues.map wordOf)
    ((slots.zip members).mergeSort fun left right => left.1 ≤ right.1).map Prod.snd

end SetOrder

end Reaching.Yaml
