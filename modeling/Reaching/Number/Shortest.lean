import Reaching.Number.Binary64
/-!
The shortest decimal of a binary number: of all decimals that round to the number, one with the
fewest digits, and of these the nearest; of two that are equally near, the one whose last digit is
even.

A finite positive number is written over a common denominator with the ends of the interval of all
that rounds to it, which belong to the interval if the significand is even. A grid of decimals has a
point in the interval only if one of the two neighbours of the number on the grid is there, so those
two are tried on coarse grids first.
-/
set_option autoImplicit false

namespace Reaching.Number

namespace Shortest

/-- A positive number and the ends of the interval that rounds to it, all over one denominator. -/
structure Target where
  value : Nat
  low : Nat
  high : Nat
  den : Nat
  closed : Bool
  deriving Repr

/-- Below a power of two the numbers are twice as dense as above it. -/
def targetOf (significand : Nat) (exponent : Int) : Target :=
  let quarter := exponent - 2
  let factor := twoTo quarter.toNat
  let isPower :=
    significand = twoTo (Binary64.precision - 1) && exponent > Binary64.leastExponent
  { value := 4 * significand * factor
    low := (4 * significand - if isPower then 1 else 2) * factor
    high := (4 * significand + 2) * factor
    den := twoTo (-quarter).toNat
    closed := significand % 2 = 0 }

/-- Gives the numerator of a point of a grid. On a grid finer than one the denominator is a power of
ten. -/
def scaledPoint (point : Nat) (grid : Int) : Nat := point * tenTo grid.toNat

def contains (target : Target) (point : Nat) (grid : Int) : Bool :=
  let shift := tenTo (-grid).toNat
  let here := scaledPoint point grid * target.den
  let low := target.low * shift
  let high := target.high * shift
  if target.closed then low ≤ here && here ≤ high else low < here && here < high

/-- Gives the point of a grid that is not above the number. -/
def below (target : Target) (grid : Int) : Nat :=
  target.value * tenTo (-grid).toNat / (target.den * tenTo grid.toNat)

/-- Picks the point of a grid that stands for the number, if one does. -/
def pointOn? (target : Target) (grid : Int) : Option Nat :=
  let lower := below target grid
  let upper := lower + 1
  match contains target lower grid, contains target upper grid with
  | true, true =>
    let twice := 2 * target.value * tenTo (-grid).toNat
    let sum := scaledPoint (lower + upper) grid * target.den
    if twice < sum || twice = sum && lower % 2 = 0 then some lower else some upper
  | true, false => some lower
  | false, true => some upper
  | false, false => none

/-- Counts the digits before the point of a number, or, as a negative count, the zeros after it. -/
def pointPlace (target : Target) : Int :=
  let whole := target.value / target.den
  if whole > 0 then (Nat.toDigits 10 whole).length
  else go 400 0
where
  go : Nat → Nat → Int
    | 0, zeros => -zeros
    | fuel + 1, zeros =>
      if target.value * tenTo (zeros + 1) < target.den then go fuel (zeros + 1) else -zeros

/-- Tries grids from `count` digits on. -/
def search (target : Target) (place : Int) : Nat → Int → Nat × Int
  | 0, count => (below target (place - count), place - count)
  | fuel + 1, count =>
    match pointOn? target (place - count) with
    | some point => (point, place - count)
    | none => search target place fuel (count + 1)

/-- Gives the digits of the shortest decimal of a positive number and the place of its point. -/
def decimal (significand : Nat) (exponent : Int) : List Char × Int :=
  let target := targetOf significand exponent
  let (point, grid) := search target (pointPlace target) 17 1
  let digits := Nat.toDigits 10 point
  ((digits.reverse.dropWhile (· = '0')).reverse, grid + digits.length)

def zeros (n : Nat) : List Char := List.replicate n '0'

/-- Writes digits with a point at a place: as they are if the number is from 0.0001 to below ten to
the sixteenth, and with an exponent of two digits or more otherwise. -/
def layout (digits : List Char) (place : Int) : List Char :=
  if place ≤ -4 ∨ place > 16 then
    let exponent := place - 1
    let size := Nat.toDigits 10 exponent.natAbs
    let fraction := digits.drop 1
    digits.take 1 ++ (if fraction.isEmpty then [] else '.' :: fraction) ++
      'e' :: (if exponent < 0 then '-' else '+') :: zeros (2 - size.length) ++ size
  else if place ≤ 0 then '0' :: '.' :: zeros place.natAbs ++ digits
  else
    let whole := digits.take place.toNat
    let fraction := digits.drop place.toNat
    whole ++ zeros (place.toNat - whole.length) ++
      '.' :: (if fraction.isEmpty then ['0'] else fraction)

end Shortest

/-- Writes a number as its shortest decimal. -/
def Binary64.shown : Binary64 → String
  | finite negative significand exponent =>
    let written := if significand = 0 then ['0', '.', '0']
      else
        let (digits, place) := Shortest.decimal significand exponent
        Shortest.layout digits place
    String.ofList (if negative then '-' :: written else written)
  | infinite negative => if negative then "-inf" else "inf"
  | undefined => "nan"

end Reaching.Number
