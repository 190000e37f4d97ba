import Reaching.Source.Parser
/-!
Token lists prepared for reading. `held` drops the comments and adds an end-of-input token after a
last token of any other kind; a document ends at the first end-of-input token that is held. A
`Stream` remembers how many of the tokens have been taken, and a reader moves it to the tokens that
it left or at which it failed.
-/
set_option autoImplicit false

namespace Reaching.Source

/-- Gives the tokens that are read: those that are no comments, closed by an end-of-input token. One
that is added stands just after the last token. -/
def held (tokens : List Token) : List Token :=
  let kept := tokens.filter (·.kind ≠ .comment)
  match kept.getLast? with
  | none => [⟨.endOfInput, "", .start⟩]
  | some last =>
    if last.kind = .endOfInput then kept
    else kept ++ [⟨.endOfInput, "", ⟨last.place.line, last.place.column + last.lexeme.length⟩⟩]

/-- Holds a token list and the number of tokens taken from it, which may run past the end. -/
structure Stream where
  tokens : List Token
  taken : Nat
  deriving DecidableEq, Repr

namespace Stream

def ofTokens (tokens : List Token) : Stream := ⟨held tokens, 0⟩

def rest (stream : Stream) : List Token := stream.tokens.drop stream.taken

/-- Looks at the token so many places ahead or, for a negative number, behind. A place before the
first token is counted back from the end. -/
def peek (stream : Stream) (ahead : Int) : Option Token :=
  match stream.taken + ahead with
  | .ofNat place => stream.tokens[place]?
  | .negSucc back => stream.tokens.reverse[back]?

def advance (stream : Stream) : Option Token × Stream :=
  (stream.rest.head?, ⟨stream.tokens, stream.taken + 1⟩)

/-- Moves to where a reading left off. -/
def leaving (stream : Stream) (left : List Token) : Stream :=
  ⟨stream.tokens, stream.taken + (stream.rest.length - left.length)⟩

def skipNewLines (stream : Stream) : Stream :=
  stream.leaving (Parser.skipNewLines stream.rest)

/-- Reads from the tokens ahead. A failure moves the stream to the tokens that it stands at. -/
def read {α : Type} (stream : Stream) (reader : List Token → Reading α) :
    Except ParseError α × Stream :=
  let reading := reader stream.rest
  (reading.toExcept, stream.leaving reading.rest)

end Stream

def parse (tokens : List Token) : Except ParseError Document :=
  ((Stream.ofTokens tokens).read Parser.document).1

end Reaching.Source
