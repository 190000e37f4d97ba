import Reaching.Text.Blank
import Reaching.Text.DecimalDigit
import Reaching.Text.Quoted
/-!
Numerals of bounded length. A decimal numeral of more than `digitLimit` digits, leading zeros
counted, is not read, and the number of its digits is reported; nor is a number written whose
numeral would be longer.

`integer?` reads a whole text as an integer of some base. Blanks may stand around it, a sign before
it, and the mark of the base (`0b`, `0o` or `0x`) after the sign; digits may be those of any script.
-/
set_option autoImplicit false

namespace Reaching.Text

def digitLimit : Nat := 4300

structure Overlong where
  digits : Nat
  deriving DecidableEq, Repr

def Overlong.message (e : Overlong) : String :=
  "Exceeds the limit (" ++ toString digitLimit ++
    " digits) for integer string conversion: value has " ++ toString e.digits ++
    " digits; use sys.set_int_max_str_digits() to increase the limit"

/-- Reads the number that a run of decimal digits writes. -/
def decimal? (digits : List Char) : Except Overlong Nat :=
  if digits.length ≤ digitLimit then .ok (ofDecimalDigits digits) else .error ⟨digits.length⟩

/-- Tells that a number has more digits than may be written. -/
inductive Unwritable where
  | tooLong
  deriving DecidableEq, Repr

def Unwritable.message (_ : Unwritable) : String :=
  "Exceeds the limit (" ++ toString digitLimit ++
    " digits) for integer string conversion; use sys.set_int_max_str_digits() to increase the limit"

def writeInteger? (n : Int) : Except Unwritable String :=
  if n.natAbs < Nat.pow 10 digitLimit then .ok (toString n) else .error .tooLong

/-- Why a text is no integer. -/
inductive IntegerFault where
  | invalid (base : Nat) (written : Codes)
  | overlong (error : Overlong)
  deriving DecidableEq, Repr

/-- How much of a quoted text is shown in a message about an integer. -/
def shownLength : Nat := 200

def IntegerFault.message : IntegerFault → String
  | invalid base written =>
    "invalid literal for int() with base " ++ toString base ++ ": " ++
      String.ofList ((quotedCodes written).toList.take shownLength)
  | overlong error => error.message

namespace Numeral

/-- Reads blanks of every script as a space and decimal digits of every script as those of ASCII.
What is no character is read as one that no numeral holds. -/
def plainChar (code : Nat) : Char :=
  let c := if code.isValidChar then Char.ofNat code else '?'
  if code < 0x7F then c
  else if isWideBlank code then ' '
  else match decimalDigit? c with
    | some digit => hexDigit digit
    | none => '?'

def trim (cs : List Char) : List Char :=
  ((cs.dropWhile isAsciiBlank).reverse.dropWhile isAsciiBlank).reverse

/-- Gives the characters of a text that may be a number, without the blanks around it. -/
def trimmed (codes : Codes) : List Char :=
  trim (codes.map plainChar)

def digitValue (c : Char) : Nat :=
  (hexValue? c).getD 16

/-- Passes the mark of a base. -/
def afterMark (base : Nat) (cs : List Char) : List Char :=
  let letter := if base = 2 then 'b' else if base = 8 then 'o' else 'x'
  match cs with
  | '0' :: mark :: rest =>
    if base ≠ 10 && (mark = letter || mark = letter.toUpper) then rest else cs
  | _ => cs

def splitSign : List Char → Bool × List Char
  | '-' :: rest => (true, rest)
  | '+' :: rest => (false, rest)
  | cs => (false, cs)

end Numeral

/-- Reads an integer of a base. Only decimal digits are counted, up to the first character that is
none. -/
def integer? (base : Nat) (codes : Codes) : Except IntegerFault Int :=
  let (negative, unsigned) := Numeral.splitSign (Numeral.trimmed codes)
  let cs := Numeral.afterMark base unsigned
  let digits := cs.takeWhile fun c => Numeral.digitValue c < base
  if base = 10 && digits.length > digitLimit then .error (.overlong ⟨digits.length⟩)
  else if digits.isEmpty || digits.length < cs.length then .error (.invalid base codes)
  else
    let n := digits.foldl (fun n c => base * n + Numeral.digitValue c) 0
    .ok (if negative then -n else n)

end Reaching.Text
