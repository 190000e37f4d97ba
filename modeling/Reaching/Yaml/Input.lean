import Reaching.Text.Utf8
import Reaching.Yaml.Cursor
/-!
A YAML text on its way to the reader. A file is decoded in blocks of bytes and handed on in pieces
of characters, of which the first two are asked for at once and the others when the reader comes to
their place. So what is wrong with the characters of a long file may never be noticed, if the reader
stops before.
-/
set_option autoImplicit false

namespace Reaching.Yaml

/-- The characters that can be read, and the fault that is met after the last of them, if there is
more to read than these. -/
structure Input where
  chars : List Char
  stop : Option Fault

namespace Input

/-- The number of bytes in a block. -/
def blockSize : Nat := 8192

/-- The number of characters in a piece. -/
def pieceSize : Nat := 4096

/-- Gives the whole pieces among some characters, after which a fault stops the reading. There are
none if the fault is met in the first two pieces. -/
def upTo (count : Nat) (cs : List Char) (fault : Fault) : Input :=
  let whole := pieceSize * (count / pieceSize)
  ⟨if whole < 2 * pieceSize then [] else cs.take whole, some fault⟩

/-- Stops before the piece that holds a character that no text may hold. -/
def checked (input : Input) : Input :=
  let count := (input.chars.takeWhile isAllowed).length
  if count < input.chars.length then upTo count input.chars .malformed else input

def ofBytes (bytes : List UInt8) : Input :=
  let (cs, error) := Text.decodeInBlocks blockSize bytes
  let cs := Text.newlines cs
  checked (match error with
    | none => ⟨cs, none⟩
    | some error => upTo cs.length cs (.undecodable error))

end Input

end Reaching.Yaml
