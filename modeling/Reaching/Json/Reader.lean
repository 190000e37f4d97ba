import Reaching.Json.Value
import Reaching.Text.Hex
/-!
Reading JSON. Blanks may stand around every part of a value. An escaped surrogate pair is one
character, and a surrogate that stands alone makes the text unreadable, as does a number with a
fraction or an exponent.

Each reader takes the characters ahead and gives what it read with what is left. The fuel of the
readers of values bounds how deep they may call one another; `Value.read?` gives them more than any
text can use.
-/
set_option autoImplicit false

namespace Reaching.Json

namespace Reader

def isBlank (c : Char) : Bool :=
  c = ' ' || c = '\t' || c = '\n' || c = '\r'

def skipBlanks (cs : List Char) : List Char :=
  cs.dropWhile isBlank

def unit? (a b c d : Char) : Option Nat := do
  let a ← Text.hexValue? a
  let b ← Text.hexValue? b
  let c ← Text.hexValue? c
  let d ← Text.hexValue? d
  return ((a * 16 + b) * 16 + c) * 16 + d

def letterEscape? : Char → Option Nat
  | '"' => some 0x22
  | '\\' => some 0x5C
  | '/' => some 0x2F
  | 'b' => some 0x08
  | 'f' => some 0x0C
  | 'n' => some 0x0A
  | 'r' => some 0x0D
  | 't' => some 0x09
  | _ => none

/-- Reads the codes of a string up to its closing quote. -/
def codes : List Char → Option (List Nat × List Char)
  | [] => none
  | '"' :: rest => some ([], rest)
  | '\\' :: 'u' :: a :: b :: c :: d :: rest => do
    let code ← unit? a b c d
    let (more, left) ← codes rest
    return (code :: more, left)
  | '\\' :: letter :: rest => do
    let code ← letterEscape? letter
    let (more, left) ← codes rest
    return (code :: more, left)
  | c :: rest => do
    let (more, left) ← codes rest
    return (c.toNat :: more, left)

def isHigh (code : Nat) : Bool := 0xD800 ≤ code && code < 0xDC00

def isLow (code : Nat) : Bool := 0xDC00 ≤ code && code < 0xE000

/-- Joins surrogate pairs to characters. -/
def characters : List Nat → Option (List Char)
  | [] => some []
  | high :: low :: rest =>
    if isHigh high then
      if isLow low then
        (characters rest).map
          (Char.ofNat (0x10000 + (high - 0xD800) * 0x400 + (low - 0xDC00)) :: ·)
      else none
    else if isLow high then none
    else (characters (low :: rest)).map (Char.ofNat high :: ·)
  | [code] => if isHigh code || isLow code then none else some [Char.ofNat code]

/-- Reads a string whose opening quote has been taken. -/
def string (cs : List Char) : Option (String × List Char) := do
  let (found, left) ← codes cs
  let text ← characters found
  return (String.ofList text, left)

def decimal (digits : List Char) : Nat :=
  digits.foldl (fun n c => 10 * n + (c.toNat - '0'.toNat)) 0

def natural (cs : List Char) : Option (Nat × List Char) :=
  match cs.takeWhile Char.isDigit with
  | [] => none
  | digits => some (decimal digits, cs.drop digits.length)

mutual

def value : Nat → List Char → Option (Value × List Char)
  | 0, _ => none
  | fuel + 1, cs =>
    match skipBlanks cs with
    | 'n' :: 'u' :: 'l' :: 'l' :: left => some (.null, left)
    | 't' :: 'r' :: 'u' :: 'e' :: left => some (.bool true, left)
    | 'f' :: 'a' :: 'l' :: 's' :: 'e' :: left => some (.bool false, left)
    | '"' :: left => (string left).map fun (text, left) => (.string text, left)
    | '-' :: left => (natural left).map fun (n, left) => (.int (-n), left)
    | '[' :: left =>
      match skipBlanks left with
      | ']' :: left => some (.array [], left)
      | left => (items fuel left).map fun (found, left) => (.array found, left)
    | '{' :: left =>
      match skipBlanks left with
      | '}' :: left => some (.object [], left)
      | left => (members fuel left).map fun (found, left) => (.object found, left)
    | left => (natural left).map fun (n, left) => (.int n, left)

def items : Nat → List Char → Option (List Value × List Char)
  | 0, _ => none
  | fuel + 1, cs => do
    let (item, left) ← value fuel cs
    match skipBlanks left with
    | ',' :: left => do
      let (rest, left) ← items fuel left
      return (item :: rest, left)
    | ']' :: left => return ([item], left)
    | _ => none

def members : Nat → List Char → Option (List (String × Value) × List Char)
  | 0, _ => none
  | fuel + 1, cs =>
    match skipBlanks cs with
    | '"' :: left => do
      let (name, left) ← string left
      match skipBlanks left with
      | ':' :: left => do
        let (member, left) ← value fuel left
        match skipBlanks left with
        | ',' :: left => do
          let (rest, left) ← members fuel left
          return ((name, member) :: rest, left)
        | '}' :: left => return ([(name, member)], left)
        | _ => none
      | _ => none
    | _ => none

end

end Reader

/-- Reads a text that holds one value and nothing else but blanks. -/
def Value.read? (text : String) : Option Value := do
  let cs := text.toList
  let (found, left) ← Reader.value (2 * cs.length + 1) cs
  match Reader.skipBlanks left with
  | [] => return found
  | _ => none

end Reaching.Json
