import Reaching.Text.Hex
/-!
Reading UTF-8. A character of more than one byte has a leading byte, which fixes how many bytes
follow and what the second may be, and then continuation bytes. A `DecodeError` tells which bytes
could not be read: a byte that starts no character, the bytes of a character up to one that does not
continue it, or those of a character that the end of the data cuts off. `decode` reads the data as a
whole and `decodeInBlocks` in blocks of one size.

`newlines` reads a return, with or without a newline after it, as a newline.
-/
set_option autoImplicit false

namespace Reaching.Text

inductive DecodeReason where
  | invalidStart
  | invalidContinuation
  | unexpectedEnd
  deriving DecidableEq, Repr

def DecodeReason.message : DecodeReason → String
  | invalidStart => "invalid start byte"
  | invalidContinuation => "invalid continuation byte"
  | unexpectedEnd => "unexpected end of data"

/-- Tells the first of the bytes that could not be read, where it stands and how many they are. -/
structure DecodeError where
  first : UInt8
  position : Nat
  count : Nat
  reason : DecodeReason
  deriving DecidableEq, Repr

def DecodeError.message (e : DecodeError) : String :=
  "'utf-8' codec can't decode " ++
    (if e.count = 1 then
      "byte 0x" ++ String.ofList (hex 2 e.first.toNat) ++ " in position " ++ toString e.position
    else
      "bytes in position " ++ toString e.position ++ "-" ++ toString (e.position + e.count - 1)) ++
    ": " ++ e.reason.message

namespace Utf8

/-- A character that has been begun: its leading byte and where that stands, the bytes read so far,
the bits they hold, the bytes still owed and the bounds of the next one. -/
structure Begun where
  first : UInt8
  position : Nat
  count : Nat
  bits : Nat
  owed : Nat
  low : Nat
  high : Nat
  deriving DecidableEq, Repr

def Begun.fault (begun : Begun) (reason : DecodeReason) : DecodeError :=
  ⟨begun.first, begun.position, begun.count, reason⟩

/-- Begins a character of several bytes with its leading byte. -/
def begin? (position : Nat) (byte : UInt8) : Option Begun :=
  let n := byte.toNat
  let start (mask owed low high : Nat) : Option Begun :=
    some ⟨byte, position, 1, n - mask, owed, low, high⟩
  if n < 0xC2 then none
  else if n < 0xE0 then start 0xC0 1 0x80 0xBF
  else if n = 0xE0 then start 0xE0 2 0xA0 0xBF
  else if n = 0xED then start 0xE0 2 0x80 0x9F
  else if n < 0xF0 then start 0xE0 2 0x80 0xBF
  else if n = 0xF0 then start 0xF0 3 0x90 0xBF
  else if n < 0xF4 then start 0xF0 3 0x80 0xBF
  else if n = 0xF4 then start 0xF0 3 0x80 0x8F
  else none

/-- Decodes bytes from a position on, in the middle of the character that has been begun, if any.
Gives the characters and what has been begun of the next one. -/
def decodeFrom (position : Nat) :
    Option Begun → List UInt8 → Except DecodeError (List Char × Option Begun)
  | begun, [] => .ok ([], begun)
  | none, byte :: rest =>
    if byte < 0x80 then do
      let (cs, last) ← decodeFrom (position + 1) none rest
      return (Char.ofNat byte.toNat :: cs, last)
    else
      match begin? position byte with
      | some begun => decodeFrom (position + 1) (some begun) rest
      | none => .error ⟨byte, position, 1, .invalidStart⟩
  | some begun, byte :: rest =>
    if begun.low ≤ byte.toNat ∧ byte.toNat ≤ begun.high then
      let bits := 0x40 * begun.bits + (byte.toNat - 0x80)
      if begun.owed = 1 then do
        let (cs, last) ← decodeFrom (position + 1) none rest
        return (Char.ofNat bits :: cs, last)
      else
        decodeFrom (position + 1) (some { begun with
          count := begun.count + 1, bits, owed := begun.owed - 1, low := 0x80, high := 0xBF }) rest
    else .error (begun.fault .invalidContinuation)

/-- Lets no character stay unfinished at the end of the data. -/
def finish (found : List Char × Option Begun) : Except DecodeError (List Char) :=
  match found.2 with
  | none => .ok found.1
  | some begun => .error (begun.fault .unexpectedEnd)

def endsInSurrogate (block : List UInt8) : Bool :=
  block.getLast?.any fun byte => 0xA0 ≤ byte && byte ≤ 0xBF

/-- A surrogate of which a block holds the first two bytes is found out only with the next block,
which starts with them. -/
def foundLater (start : Nat) (block : List UInt8) (error : DecodeError) : DecodeError :=
  if error.first = 0xED && error.position + 2 = start + block.length && endsInSurrogate block then
    { error with position := 0 }
  else error

/-- Decodes blocks of bytes one after another, up to one that cannot be read. The fuel bounds their
number. -/
def decodeBlocks (size : Nat) :
    Nat → Option Begun → List UInt8 → List Char × Option DecodeError
  | 0, _, _ => ([], none)
  | fuel + 1, begun, bytes =>
    let kept := begun.map fun begun => { begun with position := 0 }
    if bytes.isEmpty then ([], kept.map (·.fault .unexpectedEnd))
    else
      let block := bytes.take size
      let start := (kept.map Begun.count).getD 0
      match decodeFrom start kept block with
      | .error error => ([], some (foundLater start block error))
      | .ok (cs, next) =>
        let (more, error) := decodeBlocks size fuel next (bytes.drop size)
        (cs ++ more, error)

end Utf8

def decode (bytes : List UInt8) : Except DecodeError (List Char) := do
  Utf8.finish (← Utf8.decodeFrom 0 none bytes)

/-- Decodes data that is read in blocks, and gives the characters of the blocks that can be read.
Positions are counted from the start of the block, or from that of the character that the block
before has cut off. -/
def decodeInBlocks (size : Nat) (bytes : List UInt8) : List Char × Option DecodeError :=
  Utf8.decodeBlocks size (bytes.length + 1) none bytes

def newlines : List Char → List Char
  | [] => []
  | '\r' :: '\n' :: rest => '\n' :: newlines rest
  | '\r' :: rest => '\n' :: newlines rest
  | c :: rest => c :: newlines rest

end Reaching.Text
