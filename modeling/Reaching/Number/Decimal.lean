import Reaching.Number.Binary64
import Reaching.Text.Numeral
/-!
Reading decimals as binary numbers: digits, of which some may stand after a point, and a power of
ten; or the name of infinity or of the undefined number. A sign may stand before them and blanks
around them, and the digits may be those of any script. A decimal is read as the number nearest to
it.
-/
set_option autoImplicit false

namespace Reaching.Number

/-- A text that is no decimal. -/
structure DecimalFault where
  written : Text.Codes
  deriving DecidableEq, Repr

def DecimalFault.message (fault : DecimalFault) : String :=
  "could not convert string to float: " ++ Text.quotedCodes fault.written

namespace Decimal

/-- No number lies between zero and ten to minus this power, nor above ten to this power. -/
def farPower : Int := 400

/-- Gives the number nearest to digits times a power of ten. -/
def nearest (negative : Bool) (digits : List Char) (power : Int) : Binary64 :=
  let significant := digits.dropWhile (· = '0')
  let place := power + significant.length
  if significant.isEmpty || place < -farPower then .finite negative 0 Binary64.leastExponent
  else if place > farPower then .infinite negative
  else
    let n := Text.ofDecimalDigits significant
    .ofRatio negative (n * tenTo power.toNat) (tenTo (-power).toNat)

/-- Reads the power of ten that follows the digits; there may be none. -/
def power? (cs : List Char) : Option Int :=
  match cs with
  | [] => some 0
  | e :: rest =>
    let (negative, digits) := Text.Numeral.splitSign rest
    if (e = 'e' || e = 'E') && !digits.isEmpty && digits.all Char.isDigit then
      let n : Int := Text.ofDecimalDigits digits
      some (if negative then -n else n)
    else none

def unsigned? (negative : Bool) (cs : List Char) : Option Binary64 :=
  let name := String.ofList (cs.map Char.toLower)
  if name = "inf" || name = "infinity" then some (.infinite negative)
  else if name = "nan" then some .undefined
  else
    let whole := cs.takeWhile Char.isDigit
    let (fraction, rest) := match cs.drop whole.length with
      | '.' :: rest => rest.span Char.isDigit
      | rest => ([], rest)
    if whole.isEmpty && fraction.isEmpty then none
    else (power? rest).map fun power =>
      nearest negative (whole ++ fraction) (power - fraction.length)

end Decimal

/-- Reads a whole text as a decimal. -/
def Binary64.read? (codes : Text.Codes) : Except DecimalFault Binary64 :=
  let (negative, cs) := Text.Numeral.splitSign (Text.Numeral.trimmed codes)
  match Decimal.unsigned? negative cs with
  | some number => .ok number
  | none => .error ⟨codes⟩

end Reaching.Number
