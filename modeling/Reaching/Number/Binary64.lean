import Reaching.Number.Power
/-!
Binary numbers of 64 bits: a sign, a significand of 53 bits and an exponent from -1074 to 971. Next
to the finite numbers there are two infinities and the undefined number.

Every operation gives the number nearest to its exact result, of two that are equally near the one
with the even significand. `Binary64.ofRatio` rounds, and the other operations reduce to it.
-/
set_option autoImplicit false

namespace Reaching.Number

/-- The value of a finite number is its significand times two to its exponent. The significand takes
all 53 bits unless the exponent is the least one. -/
inductive Binary64 where
  | finite (negative : Bool) (significand : Nat) (exponent : Int)
  | infinite (negative : Bool)
  | undefined
  deriving DecidableEq, Repr, Inhabited

namespace Binary64

def precision : Nat := 53

def leastExponent : Int := -1074

def greatestExponent : Int := 971

def zero : Binary64 := finite false 0 leastExponent

/-- Gives the numerator and the denominator of a ratio that is divided by a power of two. -/
def scaled (num den : Nat) (exponent : Int) : Nat × Nat :=
  if exponent < 0 then (num * twoTo exponent.natAbs, den) else (num, den * twoTo exponent.natAbs)

/-- Rounds a quotient to the nearest number, and a half to the even one. -/
def roundedQuotient (num den : Nat) : Nat :=
  let quotient := num / den
  let twice := 2 * (num % den)
  if twice < den || twice = den && quotient % 2 = 0 then quotient else quotient + 1

/-- Finds the exponent at which the significand of a ratio takes all its bits, or the least one. -/
def exponentFor (num den : Nat) : Int :=
  let exponent : Int := num.log2 - den.log2 - (precision - 1)
  let (scaledNum, scaledDen) := scaled num den exponent
  let exponent := if scaledNum < scaledDen * twoTo (precision - 1) then exponent - 1 else exponent
  max leastExponent exponent

/-- Gives the number of a significand that rounding may have brought to 54 bits. -/
def normal (negative : Bool) (significand : Nat) (exponent : Int) : Binary64 :=
  let (significand, exponent) :=
    if significand = twoTo precision then (twoTo (precision - 1), exponent + 1)
    else (significand, exponent)
  if exponent > greatestExponent then infinite negative
  else finite negative significand exponent

/-- Rounds a ratio of which the denominator is positive. -/
def ofRatio (negative : Bool) (num den : Nat) : Binary64 :=
  if num = 0 then finite negative 0 leastExponent
  else
    let exponent := exponentFor num den
    let (scaledNum, scaledDen) := scaled num den exponent
    normal negative (roundedQuotient scaledNum scaledDen) exponent

/-- Rounds a significand times a power of two. -/
def ofScaled (negative : Bool) (significand : Nat) (exponent : Int) : Binary64 :=
  let (num, den) := scaled significand 1 (-exponent)
  ofRatio negative num den

def ofNat (n : Nat) : Binary64 := ofRatio false n 1

def neg : Binary64 → Binary64
  | finite negative significand exponent => finite (!negative) significand exponent
  | infinite negative => infinite (!negative)
  | undefined => undefined

def isZero : Binary64 → Bool
  | finite _ significand _ => significand = 0
  | _ => false

def mul : Binary64 → Binary64 → Binary64
  | finite s m e, finite t n f => ofScaled (s != t) (m * n) (e + f)
  | undefined, _ => undefined
  | _, undefined => undefined
  | infinite s, y => if y.isZero then undefined else infinite (s != isNegative y)
  | x, infinite t => if x.isZero then undefined else infinite (isNegative x != t)
where
  isNegative : Binary64 → Bool
    | finite negative _ _ => negative
    | infinite negative => negative
    | undefined => false

/-- Gives a finite number as a multiple of two to an exponent that is not above its own. -/
def multiple (negative : Bool) (significand : Nat) (exponent unit : Int) : Int :=
  let size : Int := significand * twoTo (exponent - unit).toNat
  if negative then -size else size

def add : Binary64 → Binary64 → Binary64
  | finite s m e, finite t n f =>
    let unit := min e f
    let sum := multiple s m e unit + multiple t n f unit
    if sum = 0 then finite (s && t) 0 leastExponent
    else ofScaled (sum < 0) sum.natAbs unit
  | undefined, _ => undefined
  | _, undefined => undefined
  | infinite s, infinite t => if s = t then infinite s else undefined
  | infinite s, _ => infinite s
  | _, infinite t => infinite t

/-- Gives the integer that a number is, if it is one. -/
def toInt? : Binary64 → Option Int
  | finite negative significand exponent =>
    let signed (n : Nat) : Int := if negative then -n else n
    let divisor := twoTo exponent.natAbs
    if exponent ≥ 0 then some (signed (significand * divisor))
    else if significand % divisor = 0 then some (signed (significand / divisor))
    else none
  | _ => none

end Binary64

end Reaching.Number
