import Reaching.Text.Position
import Reaching.Text.Quoted
/-!
Tokens of an equation text: a kind, the characters of the token and the place of the first of them.

Comments are tokens too, so that a listing can show them; reading a document drops them. A token of
kind `endOfInput` closes every token list that the lexer makes.
-/
set_option autoImplicit false

namespace Reaching.Source

inductive Kind where
  | setOpen | setClose | dataPoint | definition | equals | union | setDifference | comma
  | newLine | comment | endOfInput | unknown
  deriving DecidableEq, Repr, Inhabited

namespace Kind

def all : List Kind :=
  [setOpen, setClose, dataPoint, definition, equals, union, setDifference, comma, newLine, comment,
    endOfInput, unknown]

def name : Kind → String
  | setOpen => "SetOpen"
  | setClose => "SetClose"
  | dataPoint => "DataPoint"
  | definition => "Definition"
  | equals => "Equals"
  | union => "Union"
  | setDifference => "SetDifference"
  | comma => "Comma"
  | newLine => "NewLine"
  | comment => "Comment"
  | endOfInput => "EndOfInput"
  | unknown => "Unknown"

def ofName? (name : String) : Option Kind :=
  all.find? (·.name = name)

end Kind

structure Token where
  kind : Kind
  lexeme : String
  place : Text.Position
  deriving DecidableEq, Repr, Inhabited

/-- Shows a token as one line of a listing: kind, quoted lexeme, line and column. -/
def Token.shown (token : Token) : String :=
  token.kind.name ++ " " ++ Text.quoted token.lexeme ++ " " ++ toString token.place.line ++ ":" ++
    toString token.place.column

end Reaching.Source
