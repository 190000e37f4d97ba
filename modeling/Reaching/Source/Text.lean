import Reaching.Source.Lexer
import Reaching.Source.Stream
/-!
Documents from texts: the text is cut into tokens and the tokens are read. The first error of either
step is the error of the whole.
-/
set_option autoImplicit false

namespace Reaching.Source

inductive SourceError where
  | lex (error : LexError)
  | parse (error : ParseError)
  deriving DecidableEq, Repr

namespace SourceError

def message : SourceError → String
  | lex error => error.message
  | parse error => error.message

end SourceError

/-- Reads the document that a text holds. -/
def Document.ofText? (dialect : Dialect) (text : String) : Except SourceError Document := do
  let tokens ← (Source.lex dialect text).mapError .lex
  (Source.parse tokens).mapError .parse

end Reaching.Source
