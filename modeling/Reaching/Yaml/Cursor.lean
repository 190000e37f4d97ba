import Reaching.Yaml.Fault
/-!
A place in a YAML text. Lines end at a newline, a next-line character or one of the two separators;
a byte order mark takes no column. The end of the text is seen as the absence of a character.
-/
set_option autoImplicit false

namespace Reaching.Yaml

def isBreak (c : Char) : Bool :=
  c = '\n' || c = '\x85' || c = '\u2028' || c = '\u2029'

def isSpaceOrTab (c : Char) : Bool :=
  c = ' ' || c = '\t'

def endsLine : Option Char → Bool
  | none => true
  | some c => isBreak c

def endsWord : Option Char → Bool
  | none => true
  | some c => c = ' ' || isBreak c

def isGap : Option Char → Bool
  | none => true
  | some c => isSpaceOrTab c || isBreak c

def isWordCharacter (c : Char) : Bool :=
  c.isAlphanum || c = '-' || c = '_'

/-- Tells whether a text may hold a character. -/
def isAllowed (c : Char) : Bool :=
  let n := c.toNat
  n = 0x09 || n = 0x0A || n = 0x0D || 0x20 ≤ n && n ≤ 0x7E || n = 0x85 ||
    0xA0 ≤ n && n ≤ 0xD7FF || 0xE000 ≤ n && n ≤ 0xFFFD || 0x10000 ≤ n

structure Cursor where
  rest : List Char
  index : Nat
  line : Nat
  column : Nat
  deriving Repr

namespace Cursor

def ofChars (cs : List Char) : Cursor := ⟨cs, 0, 0, 0⟩

def here (cursor : Cursor) : Option Char := cursor.rest.head?

def peek (cursor : Cursor) (ahead : Nat) : Option Char := cursor.rest[ahead]?

def next (cursor : Cursor) : Cursor :=
  match cursor.rest with
  | [] => cursor
  | c :: rest =>
    if isBreak c then ⟨rest, cursor.index + 1, cursor.line + 1, 0⟩
    else if c = '\uFEFF' then ⟨rest, cursor.index + 1, cursor.line, cursor.column⟩
    else ⟨rest, cursor.index + 1, cursor.line, cursor.column + 1⟩

def skip (cursor : Cursor) : Nat → Cursor
  | 0 => cursor
  | count + 1 => cursor.next.skip count

/-- Takes the longest run of characters that pass a test. -/
def span (cursor : Cursor) (test : Char → Bool) : List Char × Cursor :=
  let run := cursor.rest.takeWhile test
  (run, cursor.skip run.length)

def skipWhile (cursor : Cursor) (test : Char → Bool) : Cursor :=
  (cursor.span test).2

def skipSpaces (cursor : Cursor) : Cursor :=
  cursor.skipWhile (· = ' ')

/-- Takes a line break, if one is here; every break but a separator is read as a newline. -/
def lineBreak (cursor : Cursor) : List Char × Cursor :=
  match cursor.here with
  | some c =>
    if c = '\u2028' || c = '\u2029' then ([c], cursor.next)
    else if isBreak c then (['\n'], cursor.next)
    else ([], cursor)
  | none => ([], cursor)

def skipComment (cursor : Cursor) : Cursor :=
  if cursor.here = some '#' then cursor.skipWhile fun c => !isBreak c else cursor

/-- Tells whether three equal marks that stand for themselves are here. -/
def atMarks (cursor : Cursor) (mark : Char) : Bool :=
  cursor.rest.take 3 = [mark, mark, mark] && isGap (cursor.peek 3)

def atSeparator (cursor : Cursor) : Bool :=
  cursor.atMarks '-' || cursor.atMarks '.'

/-- Passes the rest of a line that may hold nothing but a comment. -/
def finishLine (cursor : Cursor) : Except Fault Cursor :=
  let cursor := cursor.skipSpaces.skipComment
  if endsLine cursor.here then .ok cursor.lineBreak.2 else .error .malformed

end Cursor

end Reaching.Yaml
