import Reaching.Text.Hex
import Reaching.Yaml.Cursor
import Reaching.Yaml.Token
/-!
The texts of scalars: quoted, bare and block. An escape in double quotes names a code point, also
one that is no character. A line break inside a scalar is folded to a space unless blank lines
follow it, of which each gives a newline. The readers that go on over an arbitrary number of lines
are bounded by fuel, of which one unit for each character ahead is enough.
-/
set_option autoImplicit false

namespace Reaching.Yaml

namespace ScalarText

open Text (Codes)

/-- Folds a line break and the breaks of the blank lines after it. -/
def folded (first more : List Char) : List Char :=
  if first ≠ ['\n'] then first ++ more else if more.isEmpty then [' '] else more

namespace Quoted

def letter? : Char → Option Char
  | '0' => some '\x00'
  | 'a' => some '\x07'
  | 'b' => some '\x08'
  | 't' => some '\t'
  | '\t' => some '\t'
  | 'n' => some '\n'
  | 'v' => some '\x0b'
  | 'f' => some '\x0c'
  | 'r' => some '\r'
  | 'e' => some '\x1b'
  | ' ' => some ' '
  | '"' => some '"'
  | '\\' => some '\\'
  | '/' => some '/'
  | 'N' => some '\x85'
  | '_' => some '\xa0'
  | 'L' => some '\u2028'
  | 'P' => some '\u2029'
  | _ => none

def width? : Char → Option Nat
  | 'x' => some 2
  | 'u' => some 4
  | 'U' => some 8
  | _ => none

/-- Every code point is below this one. -/
def codeLimit : Nat := 0x110000

def code? (digits : List Char) : Option Nat :=
  digits.foldlM (fun n c => do return 16 * n + (← Text.hexValue? c)) 0

/-- Reads an escape that stands for a code point; the cursor is after the backslash. -/
def escaped (cursor : Cursor) : Except Fault (Codes × Cursor) :=
  match cursor.here with
  | none => .error .unclosed
  | some mark =>
    match letter? mark, width? mark with
    | some c, _ => .ok ([c.toNat], cursor.next)
    | none, none => .error .malformed
    | none, some width =>
      let digits := cursor.next.rest.take width
      match code? digits with
      | none => .error .malformed
      | some code =>
        if digits.length < width then .error .unclosed
        else if code < codeLimit then .ok ([code], cursor.next.skip width)
        else .error .noSuchCharacter

def blankLines : Nat → Cursor → Except Fault (List Char × Cursor)
  | 0, _ => .error .malformed
  | fuel + 1, cursor =>
    if cursor.atSeparator then .error .malformed
    else
      let cursor := cursor.skipWhile isSpaceOrTab
      match cursor.lineBreak with
      | ([], _) => .ok ([], cursor)
      | (first, next) => do
        let (more, last) ← blankLines fuel next
        return (first ++ more, last)

def gap (fuel : Nat) (cursor : Cursor) : Except Fault (List Char × Cursor) :=
  let (run, after) := cursor.span isSpaceOrTab
  match after.lineBreak with
  | ([], _) => if after.here = none then .error .unclosed else .ok (run, after)
  | (first, next) => do
    let (more, last) ← blankLines fuel next
    return (folded first more, last)

def stops (c : Char) : Bool :=
  c = '\'' || c = '"' || c = '\\' || isSpaceOrTab c || isBreak c

/-- Reads up to a blank, a line break or the closing quote. -/
def words (double : Bool) : Nat → Cursor → Except Fault (Codes × Cursor)
  | 0, _ => .error .malformed
  | fuel + 1, cursor => do
    let (run, cursor) := cursor.span fun c => !stops c
    let (found, after) ←
      match double, cursor.rest with
      | false, '\'' :: '\'' :: _ => pure (['\''.toNat], cursor.skip 2)
      | false, '"' :: _ => pure (['"'.toNat], cursor.next)
      | false, '\\' :: _ => pure (['\\'.toNat], cursor.next)
      | true, '\'' :: _ => pure (['\''.toNat], cursor.next)
      | true, '\\' :: c :: _ =>
        if isBreak c then do
          let (breaks, after) ← blankLines fuel cursor.next.lineBreak.2
          pure (Codes.ofChars breaks, after)
        else escaped cursor.next
      | true, ['\\'] => .error .unclosed
      | _, _ => pure ([], cursor)
    if after.index = cursor.index then return (.ofChars run, cursor)
    else
      let (more, last) ← words double fuel after
      return (.ofChars run ++ found ++ more, last)

def parts (double : Bool) : Nat → Cursor → Except Fault (Codes × Cursor)
  | 0, _ => .error .malformed
  | fuel + 1, cursor =>
    if cursor.here = some (if double then '"' else '\'') then .ok ([], cursor.next)
    else do
      let (between, cursor) ← gap fuel cursor
      let (word, cursor) ← words double fuel cursor
      let (more, last) ← parts double fuel cursor
      return (.ofChars between ++ word ++ more, last)

/-- Reads a quoted scalar from its opening quote to its closing one. -/
def read (double : Bool) (cursor : Cursor) : Except Fault (Token × Cursor) := do
  let fuel := cursor.rest.length + 1
  let (word, cursor) ← words double fuel cursor.next
  let (more, last) ← parts double fuel cursor
  return (.scalar (word ++ more) false, last)

end Quoted

namespace Bare

def isFlowMark (c : Char) : Bool :=
  c = ',' || c = '[' || c = ']' || c = '\x7b' || c = '\x7d'

/-- Takes the characters of a bare scalar up to a blank or to a mark that ends it. -/
def run (flow : Bool) : List Char → List Char
  | [] => []
  | c :: rest =>
    if isGap (some c) || c = ':' && (isGap rest.head? || flow && rest.head?.any isFlowMark) ||
        flow && (c = '?' || isFlowMark c) then []
    else c :: run flow rest

/-- Passes blank lines; there is no result if a document separator follows one. -/
def blankLines : Nat → Cursor → Option (List Char × Cursor)
  | 0, _ => none
  | fuel + 1, cursor =>
    let cursor := cursor.skipSpaces
    match cursor.lineBreak with
    | ([], _) => some ([], cursor)
    | (first, next) =>
      if next.atSeparator then none
      else (blankLines fuel next).map fun (more, last) => (first ++ more, last)

/-- Tells what stands between two parts of a bare scalar, whether it holds a line break, and where
the next part would start. Nothing stands there if the scalar is at its end. -/
structure Gap where
  text : List Char
  breaks : Bool
  cursor : Cursor

def gap (fuel : Nat) (cursor : Cursor) : Gap :=
  let (spaces, after) := cursor.span (· = ' ')
  match after.lineBreak with
  | ([], _) => ⟨spaces, false, after⟩
  | (first, next) =>
    if next.atSeparator then ⟨[], true, next⟩
    else match blankLines fuel next with
      | none => ⟨[], true, next⟩
      | some (more, last) => ⟨folded first more, true, last⟩

/-- Reads the parts of a bare scalar. Tells whether it ended after a line break. -/
def parts (flow : Bool) (indent : Int) :
    Nat → List Char → Bool → Cursor → List Char × Bool × Cursor
  | 0, _, broken, cursor => ([], broken, cursor)
  | fuel + 1, before, broken, cursor =>
    let found := if cursor.here = some '#' then [] else run flow cursor.rest
    if found.isEmpty then ([], broken, cursor)
    else
      let after := gap fuel (cursor.skip found.length)
      if after.text.isEmpty || after.cursor.here = some '#' ||
          !flow && (after.cursor.column : Int) < indent then
        (before ++ found, after.breaks, after.cursor)
      else
        let (more, last) := parts flow indent fuel after.text after.breaks after.cursor
        (before ++ found ++ more, last)

/-- Reads a bare scalar that is indented more than the collection around it. -/
def read (flow : Bool) (indent : Int) (cursor : Cursor) : Token × Bool × Cursor :=
  let (text, broken, last) := parts flow (indent + 1) (cursor.rest.length + 1) [] false cursor
  (.scalar (.ofChars text) true, broken, last)

end Bare

namespace Block

/-- What becomes of the line breaks at the end: one is kept, none or all. -/
inductive Chomping where
  | clip
  | strip
  | keep
  deriving DecidableEq, Repr

def chomping? : Option Char → Option Chomping
  | some '+' => some .keep
  | some '-' => some .strip
  | _ => none

def increment? (c : Option Char) : Except Fault (Option Nat) :=
  match c with
  | some c =>
    if c = '0' then .error .malformed
    else if c.isDigit then .ok (some (c.toNat - '0'.toNat))
    else .ok none
  | none => .ok none

/-- Reads the indicators of a block scalar, in either order. -/
def header (cursor : Cursor) : Except Fault (Chomping × Option Nat × Cursor) := do
  let (chomping, increment, cursor) ←
    match chomping? cursor.here with
    | some chomping =>
      match ← increment? cursor.next.here with
      | some n => pure (chomping, some n, cursor.skip 2)
      | none => pure (chomping, none, cursor.next)
    | none =>
      match ← increment? cursor.here with
      | none => pure (Chomping.clip, none, cursor)
      | some n =>
        match chomping? cursor.next.here with
        | some chomping => pure (chomping, some n, cursor.skip 2)
        | none => pure (.clip, some n, cursor.next)
  if endsWord cursor.here then return (chomping, increment, ← cursor.finishLine)
  else .error .malformed

/-- Passes leading blank lines and gives their breaks with the widest margin seen. -/
def margin : Nat → Nat → Cursor → List Char × Nat × Cursor
  | 0, widest, cursor => ([], widest, cursor)
  | fuel + 1, widest, cursor =>
    let cursor := cursor.skipSpaces
    let widest := max widest cursor.column
    match cursor.lineBreak with
    | ([], _) => ([], widest, cursor)
    | (first, next) =>
      let (more, rest) := margin fuel widest next
      (first ++ more, rest)

/-- Passes up to `indent` columns of blanks. -/
def intoLine (indent : Nat) (cursor : Cursor) : Cursor :=
  let spaces := (cursor.rest.takeWhile (· = ' ')).length
  cursor.skip (min spaces (indent - cursor.column))

def breaks (indent : Nat) : Nat → Cursor → List Char × Cursor
  | 0, cursor => ([], cursor)
  | fuel + 1, cursor =>
    let cursor := intoLine indent cursor
    match cursor.lineBreak with
    | ([], _) => ([], cursor)
    | (first, next) =>
      let (more, last) := breaks indent fuel next
      (first ++ more, last)

def opensWithBlank (cursor : Cursor) : Bool :=
  cursor.here.any isSpaceOrTab

/-- Reads lines at the indentation of the scalar. `before` is what stands before the next line. -/
def lines (fold : Bool) (indent : Nat) (chomping : Chomping) :
    Nat → List Char → Cursor → List Char × Cursor
  | 0, _, cursor => ([], cursor)
  | fuel + 1, before, cursor =>
    let (line, after) := cursor.span fun c => !isBreak c
    let (first, next) := after.lineBreak
    let (blank, last) := breaks indent fuel next
    if last.column = indent && last.here.isSome then
      let joint :=
        if fold && first = ['\n'] && !opensWithBlank cursor && !opensWithBlank last then
          if blank.isEmpty then [' '] else []
        else first
      let (more, final) := lines fold indent chomping fuel (joint ++ blank) last
      (before ++ line ++ more, final)
    else
      let tail := match chomping with
        | .clip => first
        | .strip => []
        | .keep => first ++ blank
      (before ++ line ++ tail, last)

/-- Reads a block scalar from its mark on, inside a collection of the given indentation. -/
def read (fold : Bool) (around : Int) (cursor : Cursor) : Except Fault (Token × Cursor) := do
  let (chomping, increment, cursor) ← header cursor.next
  let least := max 1 (around + 1).toNat
  let fuel := cursor.rest.length + 1
  let (blank, indent, cursor) := match increment with
    | some n =>
      let indent := least + n - 1
      let (blank, cursor) := breaks indent fuel cursor
      (blank, indent, cursor)
    | none =>
      let (blank, widest, cursor) := margin fuel 0 cursor
      (blank, max least widest, cursor)
  let (text, last) :=
    if cursor.column = indent && cursor.here.isSome then
      lines fold indent chomping fuel blank cursor
    else (if chomping = .keep then blank else [], cursor)
  return (.scalar (.ofChars text) false, last)

end Block

end ScalarText

end Reaching.Yaml
