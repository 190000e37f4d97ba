/-!
Base 64. Four characters hold three bytes, six bits each; an equals sign stands for a character that
is not there, and two of them end the data once two characters of a group have been read, as does
one after three. Characters that are neither add nothing. A group may not end in the middle.
-/
set_option autoImplicit false

namespace Reaching.Text

namespace Base64

def value? (c : Char) : Option Nat :=
  if 'A' ≤ c && c ≤ 'Z' then some (c.toNat - 'A'.toNat)
  else if 'a' ≤ c && c ≤ 'z' then some (c.toNat - 'a'.toNat + 26)
  else if '0' ≤ c && c ≤ '9' then some (c.toNat - '0'.toNat + 52)
  else if c = '+' then some 62
  else if c = '/' then some 63
  else none

/-- Reads on in a group of which `count` characters have been read, the last of them with the bits
`left` that are in no byte yet, and after `pads` equals signs in a row. -/
def decodeFrom (count left pads : Nat) : List Char → Option (List UInt8)
  | [] => if count = 0 then some [] else none
  | '=' :: rest =>
    if count < 2 then decodeFrom count left pads rest
    else if count + pads + 1 ≥ 4 then some []
    else decodeFrom count left (pads + 1) rest
  | c :: rest =>
    match value? c with
    | none => decodeFrom count left pads rest
    | some six =>
      if count = 0 then decodeFrom 1 six 0 rest
      else if count = 1 then
        (decodeFrom 2 (six % 16) 0 rest).map (UInt8.ofNat (left * 4 + six / 16) :: ·)
      else if count = 2 then
        (decodeFrom 3 (six % 4) 0 rest).map (UInt8.ofNat (left * 16 + six / 4) :: ·)
      else (decodeFrom 0 0 0 rest).map (UInt8.ofNat (left * 64 + six) :: ·)

def decode? (cs : List Char) : Option (List UInt8) :=
  decodeFrom 0 0 0 cs

end Base64

end Reaching.Text
