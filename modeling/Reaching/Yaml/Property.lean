import Reaching.Text.Hex
import Reaching.Text.Utf8
import Reaching.Yaml.Cursor
import Reaching.Yaml.Token
/-!
Directives, anchors, aliases and tags. Each reader stands at the mark that starts one and gives the
token with the cursor after it.
-/
set_option autoImplicit false

namespace Reaching.Yaml

namespace Property

def word (cursor : Cursor) : Except Fault (String × Cursor) :=
  match cursor.span isWordCharacter with
  | ([], _) => .error .malformed
  | (run, cursor) => .ok (String.ofList run, cursor)

def closed (ends : Option Char → Bool) (cursor : Cursor) : Except Fault Unit :=
  if ends cursor.here then .ok () else .error .malformed

def digits (cursor : Cursor) : Except Fault (Nat × Cursor) :=
  match cursor.span Char.isDigit with
  | ([], _) => .error .malformed
  | (run, cursor) => do
    let n ← (Text.decimal? run).mapError fun error => .notInteger (.overlong error)
    return (n, cursor)

/-- Reads `!`, `!!` or `!word!`. -/
def handle (cursor : Cursor) : Except Fault (String × Cursor) :=
  if cursor.here ≠ some '!' then .error .malformed
  else if cursor.peek 1 = some ' ' then .ok ("!", cursor.next)
  else
    let (run, after) := cursor.next.span isWordCharacter
    if after.here = some '!' then .ok (String.ofList ('!' :: run ++ ['!']), after.next)
    else .error .malformed

def isUriCharacter (c : Char) : Bool :=
  c.isAlphanum || "-;/?:@&=+$,_.!~*'()[]".toList.contains c

/-- Reads a run of escaped bytes. -/
def escapedBytes : List Char → Except Fault (List UInt8 × List Char)
  | '%' :: a :: b :: rest =>
    match Text.hexValue? a, Text.hexValue? b with
    | some high, some low => do
      let (more, left) ← escapedBytes rest
      return (UInt8.ofNat (16 * high + low) :: more, left)
    | _, _ => .error .malformed
  | '%' :: _ => .error .malformed
  | rest => .ok ([], rest)

def uriFrom : Nat → Cursor → Except Fault (List Char × Cursor)
  | 0, _ => .error .malformed
  | fuel + 1, cursor => do
    let (run, after) := cursor.span isUriCharacter
    if after.here = some '%' then
      let (bytes, _) ← escapedBytes after.rest
      let text ← (Text.decode bytes).mapError fun _ => .malformed
      let (more, last) ← uriFrom fuel (after.skip (3 * bytes.length))
      return (run ++ text ++ more, last)
    else return (run, after)

def uri (cursor : Cursor) : Except Fault (String × Cursor) := do
  let (text, last) ← uriFrom (cursor.rest.length + 1) cursor
  if last.index = cursor.index then .error .malformed
  else return (String.ofList text, last)

def directive (cursor : Cursor) : Except Fault (Token × Cursor) := do
  let (name, cursor) ← word cursor.next
  closed endsWord cursor
  if name = "YAML" then
    let (major, cursor) ← digits cursor.skipSpaces
    if cursor.here ≠ some '.' then .error .malformed
    else
      let (_, cursor) ← digits cursor.next
      closed endsWord cursor
      return (.directive (.version major), ← cursor.finishLine)
  else if name = "TAG" then
    let (handle, cursor) ← handle cursor.skipSpaces
    if cursor.here ≠ some ' ' then .error .malformed
    else
      let (replacement, cursor) ← uri cursor.skipSpaces
      closed endsWord cursor
      return (.directive (.tag handle replacement), ← cursor.finishLine)
  else
    return (.directive .other, ← (cursor.skipWhile fun c => !isBreak c).finishLine)

/-- Reads the name of an anchor or alias after its mark. -/
def name (cursor : Cursor) : Except Fault (String × Cursor) := do
  let (name, cursor) ← word cursor.next
  closed (fun c => isGap c || c.any "?:,]\x7d%@\x60".toList.contains) cursor
  return (name, cursor)

/-- Tells whether a mark stands in the word here, after its first character. -/
def namesHandle (cursor : Cursor) : Bool :=
  (cursor.rest.drop 1).takeWhile (fun c => !endsWord (some c)) |>.contains '!'

def tag (cursor : Cursor) : Except Fault (Token × Cursor) := do
  let (token, cursor) ←
    if cursor.peek 1 = some '<' then do
      let (suffix, cursor) ← uri (cursor.skip 2)
      if cursor.here ≠ some '>' then .error .malformed
      else pure (Token.tag none suffix, cursor.next)
    else if isGap (cursor.peek 1) then pure (Token.tag none "!", cursor.next)
    else if namesHandle cursor then do
      let (handle, cursor) ← handle cursor
      let (suffix, cursor) ← uri cursor
      pure (Token.tag (some handle) suffix, cursor)
    else do
      let (suffix, cursor) ← uri cursor.next
      pure (Token.tag (some "!") suffix, cursor)
  closed endsWord cursor
  return (token, cursor)

end Property

end Reaching.Yaml
