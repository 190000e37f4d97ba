import Reaching.Json.Value
import Reaching.Text.Hex
/-!
Writing JSON in ASCII.

A `Layout` says what stands between the parts of a value: `Layout.compact` puts nothing there and
`Layout.indented` one item or member on a line, set in by the depth. Empty arrays and objects are
closed at once in both. A character that is not printable ASCII is written by its escape; one beyond
the first 65536 code points is written as a surrogate pair.
-/
set_option autoImplicit false

namespace Reaching.Json

structure Layout where
  lineBreak : Nat → List Char
  colon : List Char

namespace Layout

def compact : Layout := ⟨fun _ => [], [':']⟩

def indented (width : Nat) : Layout :=
  ⟨fun depth => '\n' :: List.replicate (width * depth) ' ', [':', ' ']⟩

end Layout

namespace Printer

def unit (code : Nat) : List Char :=
  '\\' :: 'u' :: Text.hex 4 code

def escape (c : Char) : List Char :=
  if c = '"' then ['\\', '"']
  else if c = '\\' then ['\\', '\\']
  else if c = '\n' then ['\\', 'n']
  else if c = '\r' then ['\\', 'r']
  else if c = '\t' then ['\\', 't']
  else if c = '\x08' then ['\\', 'b']
  else if c = '\x0c' then ['\\', 'f']
  else if ' ' ≤ c ∧ c ≤ '~' then [c]
  else if c.toNat < 0x10000 then unit c.toNat
  else unit (0xD800 + (c.toNat - 0x10000) / 0x400) ++ unit (0xDC00 + (c.toNat - 0x10000) % 0x400)

def string (text : String) : List Char :=
  '"' :: text.toList.flatMap escape ++ ['"']

mutual

def value (layout : Layout) (depth : Nat) : Value → List Char
  | .null => ['n', 'u', 'l', 'l']
  | .bool true => ['t', 'r', 'u', 'e']
  | .bool false => ['f', 'a', 'l', 's', 'e']
  | .int n => (toString n).toList
  | .string text => string text
  | .array [] => ['[', ']']
  | .array (item :: rest) =>
    '[' :: layout.lineBreak (depth + 1) ++ value layout (depth + 1) item ++
      items layout depth rest ++ layout.lineBreak depth ++ [']']
  | .object [] => ['{', '}']
  | .object ((name, member) :: rest) =>
    '{' :: layout.lineBreak (depth + 1) ++ string name ++ layout.colon ++
      value layout (depth + 1) member ++ members layout depth rest ++ layout.lineBreak depth ++ ['}']

def items (layout : Layout) (depth : Nat) : List Value → List Char
  | [] => []
  | item :: rest =>
    ',' :: layout.lineBreak (depth + 1) ++ value layout (depth + 1) item ++ items layout depth rest

def members (layout : Layout) (depth : Nat) : List (String × Value) → List Char
  | [] => []
  | (name, member) :: rest =>
    ',' :: layout.lineBreak (depth + 1) ++ string name ++ layout.colon ++
      value layout (depth + 1) member ++ members layout depth rest

end

end Printer

def Value.print (layout : Layout) (value : Value) : String :=
  String.ofList (Printer.value layout 0 value)

end Reaching.Json
