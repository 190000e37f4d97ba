import Reaching.Source.Token
/-!
Cutting a text into tokens.

A `Cursor` stands at a place of the text and holds the characters that are still to be read. Reading
moves it forward and never past the end. `Cursor.scan` takes tokens, each after the blanks before
it, until the text ends or, in a strict dialect, until a character that starts no token; the cursor
it returns is where it stopped. `Cursor.tokens` closes a scan that reached the end with an
end-of-input token and reports any other as a `LexError`.

A comment runs from its mark to the end of the line. A data point or a definition is its letter and
the longest run of ASCII digits after it. Every other token is a single character.
-/
set_option autoImplicit false

namespace Reaching.Source

/-- The two choices that a reader of equation texts has: whether a character that starts no token
is an error, and whether a semicolon ends an equation as a newline does. -/
structure Dialect where
  strict : Bool := false
  semicolons : Bool := true
  deriving DecidableEq, Repr, Inhabited

structure LexError where
  found : Char
  place : Text.Position
  deriving DecidableEq, Repr

def LexError.message (e : LexError) : String :=
  "Lexer error at line " ++ toString e.place.line ++ ", column " ++ toString e.place.column ++
    ": Unexpected character: " ++ Text.quoted e.found.toString

def isBlank (c : Char) : Bool :=
  c = ' ' || c = '\t' || c = '\r'

/-- Gives the kind of the token that a character starts. -/
def Dialect.kindOf (dialect : Dialect) : Char → Kind
  | '#' => .comment
  | '\n' => .newLine
  | ';' => if dialect.semicolons then .newLine else .unknown
  | '{' => .setOpen
  | '}' => .setClose
  | '=' => .equals
  | 'U' => .union
  | '\\' => .setDifference
  | '/' => .setDifference
  | ',' => .comma
  | 'L' => .dataPoint
  | 'd' => .definition
  | _ => .unknown

structure Cursor where
  offset : Nat
  place : Text.Position
  rest : List Char
  deriving DecidableEq, Repr

namespace Cursor

def ofText (text : String) : Cursor := ⟨0, .start, text.toList⟩

def peek (cursor : Cursor) (ahead : Nat) : Option Char :=
  cursor.rest[ahead]?

/-- Moves over up to `count` characters. -/
def advance (cursor : Cursor) (count : Nat) : Cursor :=
  let passed := cursor.rest.take count
  ⟨cursor.offset + passed.length, cursor.place.after passed, cursor.rest.drop count⟩

/-- Takes the longest run of characters that pass a test. -/
def span (cursor : Cursor) (test : Char → Bool) : List Char × Cursor :=
  let run := cursor.rest.takeWhile test
  (run, cursor.advance run.length)

def skipBlanks (cursor : Cursor) : Cursor :=
  (cursor.span isBlank).2

def readComment (cursor : Cursor) : Token × Cursor :=
  let (run, next) := cursor.span (· ≠ '\n')
  (⟨.comment, String.ofList run, cursor.place⟩, next)

/-- Takes the character here, whatever it is, and the ASCII digits after it. -/
def readIdentifier (cursor : Cursor) (kind : Kind) : Token × Cursor :=
  let letter := cursor.rest.take 1
  let (digits, next) := (cursor.advance 1).span Char.isDigit
  (⟨kind, String.ofList (letter ++ digits), cursor.place⟩, next)

def readSingle (cursor : Cursor) (kind : Kind) : Token × Cursor :=
  (⟨kind, String.ofList (cursor.rest.take 1), cursor.place⟩, cursor.advance 1)

def readToken (cursor : Cursor) (kind : Kind) : Token × Cursor :=
  match kind with
  | .comment => cursor.readComment
  | .dataPoint | .definition => cursor.readIdentifier kind
  | _ => cursor.readSingle kind

@[simp] theorem length_rest_advance (cursor : Cursor) (count : Nat) :
    (cursor.advance count).rest.length = cursor.rest.length - count := by
  simp [advance]

theorem length_rest_skipBlanks_le (cursor : Cursor) :
    cursor.skipBlanks.rest.length ≤ cursor.rest.length := by
  simp [skipBlanks, span]

theorem length_rest_span_lt (cursor : Cursor) (test : Char → Bool) (c : Char) (rest : List Char)
    (here : cursor.rest = c :: rest) (passes : test c = true) :
    (cursor.span test).2.rest.length < cursor.rest.length := by
  rw [span, length_rest_advance, here, List.takeWhile_cons_of_pos passes, List.length_cons,
    List.length_cons]
  omega

theorem length_rest_span_le (cursor : Cursor) (test : Char → Bool) :
    (cursor.span test).2.rest.length ≤ cursor.rest.length := by
  rw [span, length_rest_advance]
  omega

theorem length_rest_advance_lt (cursor : Cursor) (c : Char) (rest : List Char)
    (here : cursor.rest = c :: rest) : (cursor.advance 1).rest.length < cursor.rest.length := by
  rw [length_rest_advance, here, List.length_cons]
  omega

/-- Every token read takes at least the character that it starts with. -/
theorem length_rest_readToken_lt (dialect : Dialect) (cursor : Cursor) (c : Char)
    (rest : List Char) (here : cursor.rest = c :: rest) :
    (cursor.readToken (dialect.kindOf c)).2.rest.length < cursor.rest.length := by
  have identifier : ∀ kind, (cursor.readIdentifier kind).2.rest.length < cursor.rest.length :=
    fun _ => Nat.lt_of_le_of_lt (length_rest_span_le _ _) (length_rest_advance_lt cursor c rest here)
  unfold readToken
  split
  · rename_i comment
    have starts : c = '#' := by
      unfold Dialect.kindOf at comment
      split at comment <;> first | rfl | (split at comment <;> contradiction) | contradiction
    subst starts
    exact length_rest_span_lt cursor _ _ rest here (by decide)
  · exact identifier _
  · exact identifier _
  · exact length_rest_advance_lt cursor c rest here

/-- Takes tokens until the text ends or, in a strict dialect, a character starts none. -/
def scan (dialect : Dialect) (cursor : Cursor) : List Token × Cursor :=
  match _here : cursor.skipBlanks.rest with
  | [] => ([], cursor.skipBlanks)
  | c :: _ =>
    if dialect.strict && dialect.kindOf c = .unknown then ([], cursor.skipBlanks)
    else
      let read := cursor.skipBlanks.readToken (dialect.kindOf c)
      let found := scan dialect read.2
      (read.1 :: found.1, found.2)
termination_by cursor.rest.length
decreasing_by
  exact Nat.lt_of_lt_of_le (length_rest_readToken_lt dialect _ _ _ _here)
    (length_rest_skipBlanks_le cursor)

/-- Reads all tokens from here on; the cursor stops at the end of the text or at the character that
is reported. -/
def tokens (dialect : Dialect) (cursor : Cursor) : Except LexError (List Token) × Cursor :=
  let (found, stop) := cursor.scan dialect
  match stop.rest with
  | [] => (.ok (found ++ [⟨.endOfInput, "", stop.place⟩]), stop)
  | c :: _ => (.error ⟨c, stop.place⟩, stop)

end Cursor

def lex (dialect : Dialect) (text : String) : Except LexError (List Token) :=
  ((Cursor.ofText text).tokens dialect).1

end Reaching.Source
