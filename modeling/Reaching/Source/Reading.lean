import Reaching.Source.Token
/-!
Outcomes of reading from the tokens ahead. A `Reading` holds what was read and the tokens that were
left, or the cause of a failure and the tokens that the failure stands at: the first of them is the
token that is reported, and a failure with none left, or with an end-of-input token first, is
reported at the end of the input.
-/
set_option autoImplicit false

namespace Reaching.Source

inductive Cause where
  | expected (kind : Kind)
  | expectedOperator
  | noLeftOperand (operator : String)
  | expectedSetAfter (operator : String)
  | expectedExpression
  | expectedOperand
  | unterminatedSet
  | noEquations
  | other (text : String)
  deriving DecidableEq, Repr

/-- Tells what was found in place of what was expected. -/
def describe : Option Token → String
  | none => "end of input"
  | some token =>
    match token.kind with
    | .endOfInput => "end of input"
    | .unknown => "unknown character " ++ Text.quoted token.lexeme
    | kind => kind.name ++ " " ++ Text.quoted token.lexeme

def Cause.message (found : Option Token) : Cause → String
  | expected kind => "Expected " ++ kind.name ++ ", got " ++ describe found
  | expectedOperator => "Expected operator between operands, got " ++ describe found
  | noLeftOperand operator => "Operator " ++ Text.quoted operator ++ " has no left operand"
  | expectedSetAfter operator =>
    "Expected set literal after " ++ Text.quoted operator ++ ", got " ++ describe found
  | expectedExpression => "Expected set expression, got " ++ describe found
  | expectedOperand => "Expected set or data point, got " ++ describe found
  | unterminatedSet => "Unterminated set, expected '\x7d', got " ++ describe found
  | noEquations => "Expected at least one equation"
  | other text => text

structure ParseError where
  cause : Cause
  found : Option Token
  deriving DecidableEq, Repr

namespace ParseError

/-- Gives the place that an error names: none if it stands at the end of the input. -/
def place (e : ParseError) : Option Text.Position :=
  match e.found with
  | some token => if token.kind = .endOfInput then none else some token.place
  | none => none

def message (e : ParseError) : String :=
  let text := e.cause.message e.found
  match e.place with
  | some place =>
    "Parser error at line " ++ toString place.line ++ ", column " ++ toString place.column ++ ": " ++
      text
  | none => "Parser error at end of file: " ++ text

end ParseError

/-- The outcome of reading from the tokens ahead. -/
inductive Reading (α : Type) where
  | done (value : α) (rest : List Token)
  | stuck (cause : Cause) (rest : List Token)
  deriving Repr

namespace Reading

variable {α β : Type}

def rest : Reading α → List Token
  | done _ rest => rest
  | stuck _ rest => rest

def bind (reading : Reading α) (next : α → List Token → Reading β) : Reading β :=
  match reading with
  | done value rest => next value rest
  | stuck cause rest => stuck cause rest

def map (f : α → β) (reading : Reading α) : Reading β :=
  reading.bind fun value rest => done (f value) rest

def toExcept : Reading α → Except ParseError α
  | done value _ => .ok value
  | stuck cause rest => .error ⟨cause, rest.head?⟩

end Reading

end Reaching.Source
