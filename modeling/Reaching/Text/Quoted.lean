import Reaching.Text.Codes
import Reaching.Text.Hex
import Reaching.Text.Printable
/-!
Text shown between quotes in messages. The quotes are single, unless the text holds a single quote
and no double one. The backslash and the quote in use take a backslash, newline, return and tab
have their letters, and every other code point that is not printable is written by its code in two,
four or eight hexadecimal digits.

Bytes are shown in the same way after a `b`, but only those of printable ASCII as they are.
-/
set_option autoImplicit false

namespace Reaching.Text

namespace Quoted

def quoteFor (codes : Codes) : Char :=
  if codes.contains '\''.toNat && !codes.contains '"'.toNat then '"' else '\''

def codeEscape (code : Nat) : List Char :=
  if code < 0x100 then '\\' :: 'x' :: hex 2 code
  else if code < 0x10000 then '\\' :: 'u' :: hex 4 code
  else '\\' :: 'U' :: hex 8 code

/-- Writes a code point; `isPlain` tells which ones are written as they are. -/
def escape (isPlain : Nat → Bool) (quote : Char) (code : Nat) : List Char :=
  if code = quote.toNat ∨ code = '\\'.toNat then ['\\', Char.ofNat code]
  else if code = '\n'.toNat then ['\\', 'n']
  else if code = '\r'.toNat then ['\\', 'r']
  else if code = '\t'.toNat then ['\\', 't']
  else if isPlain code then [Char.ofNat code]
  else codeEscape code

def write (isPlain : Nat → Bool) (codes : Codes) : List Char :=
  let quote := quoteFor codes
  quote :: codes.flatMap (escape isPlain quote) ++ [quote]

end Quoted

def quotedCodes (codes : Codes) : String :=
  String.ofList (Quoted.write isPrintable codes)

def quoted (text : String) : String :=
  quotedCodes (.ofString text)

def quotedBytes (bytes : List UInt8) : String :=
  String.ofList ('b' :: Quoted.write (fun code => 0x20 ≤ code && code < 0x7F)
    (bytes.map UInt8.toNat))

end Reaching.Text
