import Reaching.Number.Decimal
import Reaching.Text.Utf8
import Reaching.Yaml.Timestamp
/-!
What can be wrong with a YAML text. Its bytes may be no characters, or its form may be wrong, also
because it ends inside of a quoted scalar. The other faults come from a scalar whose text is not of
the kind that its tag, or its spelling, asks for.
-/
set_option autoImplicit false

namespace Reaching.Yaml

inductive Fault where
  | undecodable (error : Text.DecodeError)
  | malformed
  | unclosed
  | noSuchCharacter
  | notInteger (fault : Text.IntegerFault)
  | notDecimal (fault : Number.DecimalFault)
  | noDigits
  | tooLarge
  | notTruth (word : Text.Codes)
  | notTime
  | notText
  | badTime (flaw : TimeFlaw)
  deriving DecidableEq, Repr

namespace Fault

/-- Tells whether a fault is one that nobody who reads settings is prepared for. -/
def isAbrupt : Fault → Bool
  | noDigits | tooLarge | notTruth _ | notTime | notText => true
  | _ => false

/-- Gives the message on a fault. That on a wrong form is not modelled: it would quote the text around
the place where the form breaks. -/
def message? : Fault → Option String
  | malformed | unclosed => none
  | undecodable error => error.message
  | noSuchCharacter => "chr() arg not in range(0x110000)"
  | notInteger fault => fault.message
  | notDecimal fault => fault.message
  | noDigits => "string index out of range"
  | tooLarge => "int too large to convert to float"
  | notTruth word => Text.quotedCodes word
  | notTime => "'NoneType' object has no attribute 'groupdict'"
  | notText => "expected string or bytes-like object, got 'list'"
  | badTime flaw => flaw.message

end Fault

end Reaching.Yaml
