import Reaching.Number.Shortest
import Reaching.Text.Base64
import Reaching.Text.Lower
import Reaching.Yaml.Fault
import Reaching.Yaml.Tag
/-!
Reading the text of a scalar as a value of some kind.

Underscores in numbers mean nothing. An integer is binary after `0b`, hexadecimal after `0x` and
octal after any other zero, and the parts of a number in base sixty stand between colons. A tag may
ask for a kind whatever the spelling, so every reader takes every text.
-/
set_option autoImplicit false

namespace Reaching.Yaml

namespace Scalar

open Number (Binary64)
open Text (Codes)

def codeOf (c : Char) : Nat := c.toNat

def withoutGaps (text : Codes) : Codes :=
  text.filter (· ≠ codeOf '_')

/-- Takes a sign off a number, of which something must be there. -/
def splitSign (text : Codes) : Except Fault (Bool × Codes) :=
  match text with
  | [] => .error .noDigits
  | c :: rest =>
    if c = codeOf '-' then .ok (true, rest)
    else if c = codeOf '+' then .ok (false, rest)
    else .ok (false, text)

def inBase (base : Nat) (text : Codes) : Except Fault Int :=
  (Text.integer? base text).mapError .notInteger

def parts (text : Codes) : List Codes :=
  Tag.splitOn (codeOf ':') text

def magnitude (text : Codes) : Except Fault Int :=
  match text with
  | [] => .error .noDigits
  | first :: rest =>
    if first = codeOf '0' then
      match rest with
      | [] => .ok 0
      | mark :: digits =>
        if mark = codeOf 'b' then inBase 2 digits
        else if mark = codeOf 'x' then inBase 16 digits
        else inBase 8 text
    else if text.contains (codeOf ':') then do
      let found ← (parts text).mapM (inBase 10)
      return found.foldl (fun n part => 60 * n + part) 0
    else inBase 10 text

def integer (text : Codes) : Except Fault Int := do
  let (negative, text) ← splitSign (withoutGaps text)
  let n ← magnitude text
  return if negative then -n else n

def decimal (text : Codes) : Except Fault Binary64 :=
  (Binary64.read? text).mapError .notDecimal

/-- Adds up the parts of a number in base sixty, the last one first. A power of sixty that is no
finite number is refused. -/
def sixtieths (found : List Binary64) : Except Fault Binary64 :=
  found.reverse.zipIdx.foldlM (fun sum (part, place) =>
    match Binary64.ofNat (Nat.pow 60 place) with
    | .infinite _ => .error .tooLarge
    | weight => .ok (sum.add (part.mul weight))) Binary64.zero

/-- Tells whether a text in lower case is the spelling of the undefined number. -/
def isUndefined (text : Codes) : Bool :=
  match splitSign (Text.lower (withoutGaps text)) with
  | .ok (_, unsigned) => unsigned = .ofString ".nan"
  | .error _ => false

def fraction (text : Codes) : Except Fault Binary64 := do
  let (negative, text) ← splitSign (Text.lower (withoutGaps text))
  let size ←
    if text = .ofString ".inf" then pure (Binary64.infinite false)
    else if text = .ofString ".nan" then pure .undefined
    else if text.contains (codeOf ':') then sixtieths (← (parts text).mapM decimal)
    else decimal text
  return if negative then size.neg else size

def truth (text : Codes) : Except Fault Bool :=
  let word := Text.lower text
  if (Tag.trueWords.map Codes.ofString).contains word then .ok true
  else if (Tag.falseWords.map Codes.ofString).contains word then .ok false
  else .error (.notTruth word)

def timestamp (text : Codes) : Except Fault Timestamp :=
  match text.chars?.bind fun cs => Timestamp.read? (Tag.withoutNewline cs) with
  | none => .error .notTime
  | some timestamp =>
    match timestamp.flaw? with
    | some flaw => .error (.badTime flaw)
    | none => .ok timestamp

/-- Reads bytes, which are written in base 64 in characters of ASCII. -/
def bytes (text : Codes) : Except Fault (List UInt8) :=
  if text.all (· < 0x80) then
    match Text.Base64.decode? (text.map Char.ofNat) with
    | some bytes => .ok bytes
    | none => .error .malformed
  else .error .malformed

end Scalar

end Reaching.Yaml
