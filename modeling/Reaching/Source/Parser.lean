import Reaching.Source.Document
import Reaching.Source.Reading
/-!
The readers of an equation document. Each takes the tokens ahead and follows one rule of the
grammar:

    document   = lines [ equation { newline lines equation } ] lines end
    equation   = data point "=" expression
    expression = operand { union operand | difference set }
    operand    = set | data point
    set        = "open" [ definition { "," definition } ] "close"

There is no recovery: the first failure ends the reading. Every reader leaves a suffix of the tokens
it was given.
-/
set_option autoImplicit false

namespace Reaching.Source

namespace Parser

def expect (kind : Kind) : List Token → Reading Token
  | [] => .stuck (.expected kind) []
  | token :: rest =>
    if token.kind = kind then .done token rest else .stuck (.expected kind) (token :: rest)

def nextIs (kind : Kind) : List Token → Bool
  | [] => false
  | token :: _ => token.kind = kind

def skipNewLines : List Token → List Token
  | [] => []
  | token :: rest => if token.kind = .newLine then skipNewLines rest else token :: rest

def dataPoint (tokens : List Token) : Reading Name :=
  (expect .dataPoint tokens).map Name.ofToken

def definition (tokens : List Token) : Reading Name :=
  (expect .definition tokens).map Name.ofToken

/-- Reads `, d` any number of times. -/
def moreDefinitions : List Token → Reading (List Name)
  | [] => .done [] []
  | [comma] =>
    if comma.kind = .comma then .stuck (.expected .definition) [] else .done [] [comma]
  | comma :: name :: rest =>
    if comma.kind = .comma then
      if name.kind = .definition then (moreDefinitions rest).map (Name.ofToken name :: ·)
      else .stuck (.expected .definition) (name :: rest)
    else .done [] (comma :: name :: rest)

def definitions (tokens : List Token) : Reading (List Name) :=
  if nextIs .definition tokens then
    (definition tokens).bind fun first rest => (moreDefinitions rest).map (first :: ·)
  else .done [] tokens

def closeSet : List Token → Reading Unit
  | [] => .stuck .unterminatedSet []
  | token :: rest =>
    if token.kind = .setClose then .done () rest else .stuck .unterminatedSet (token :: rest)

def set (tokens : List Token) : Reading SetLiteral :=
  (expect .setOpen tokens).bind fun _ rest =>
    (definitions rest).bind fun items rest => (closeSet rest).map fun _ => items

def operand : List Token → Reading Operand
  | [] => .stuck .expectedOperand []
  | token :: rest =>
    match token.kind with
    | .setOpen => (set (token :: rest)).map .set
    | .dataPoint => .done (.point (.ofToken token)) rest
    | _ => .stuck .expectedOperand (token :: rest)

def subtrahend (operator : Token) (tokens : List Token) : Reading SetLiteral :=
  if nextIs .setOpen tokens then set tokens else .stuck (.expectedSetAfter operator.lexeme) tokens

theorem rest_bind_suffix {α β : Type} {reading : Reading α} {next : α → List Token → Reading β}
    {tokens : List Token} (first : reading.rest <:+ tokens)
    (second : ∀ value rest, (next value rest).rest <:+ rest) :
    (reading.bind next).rest <:+ tokens := by
  cases reading with
  | done value rest => exact (second value rest).trans first
  | stuck cause rest => exact first

@[simp] theorem rest_map {α β : Type} (reading : Reading α) (f : α → β) :
    (reading.map f).rest = reading.rest := by
  cases reading <;> rfl

theorem expect_suffix (kind : Kind) (tokens : List Token) :
    (expect kind tokens).rest <:+ tokens := by
  cases tokens with
  | nil => exact List.suffix_refl _
  | cons token rest =>
    rw [expect]
    split
    · exact List.suffix_cons token rest
    · exact List.suffix_refl _

theorem skipNewLines_suffix (tokens : List Token) : skipNewLines tokens <:+ tokens := by
  induction tokens with
  | nil => exact List.suffix_refl _
  | cons token rest ih =>
    unfold skipNewLines
    split
    · exact ih.trans (List.suffix_cons token rest)
    · exact List.suffix_refl _

theorem dataPoint_suffix (tokens : List Token) : (dataPoint tokens).rest <:+ tokens := by
  rw [dataPoint, rest_map]
  exact expect_suffix _ _

theorem definition_suffix (tokens : List Token) : (definition tokens).rest <:+ tokens := by
  rw [definition, rest_map]
  exact expect_suffix _ _

theorem moreDefinitions_suffix (tokens : List Token) :
    (moreDefinitions tokens).rest <:+ tokens := by
  fun_induction moreDefinitions tokens with
  | case1 => exact List.suffix_refl _
  | case2 comma => exact List.suffix_cons comma []
  | case3 comma => exact List.suffix_refl _
  | case4 comma name rest _ _ ih =>
    rw [rest_map]
    exact (ih.trans (List.suffix_cons name rest)).trans (List.suffix_cons comma _)
  | case5 comma name rest => exact List.suffix_cons comma _
  | case6 comma name rest => exact List.suffix_refl _

theorem definitions_suffix (tokens : List Token) : (definitions tokens).rest <:+ tokens := by
  unfold definitions
  split
  · refine rest_bind_suffix (definition_suffix tokens) fun first rest => ?_
    rw [rest_map]
    exact moreDefinitions_suffix rest
  · exact List.suffix_refl _

theorem closeSet_suffix (tokens : List Token) : (closeSet tokens).rest <:+ tokens := by
  cases tokens with
  | nil => exact List.suffix_refl _
  | cons token rest =>
    rw [closeSet]
    split
    · exact List.suffix_cons token rest
    · exact List.suffix_refl _

theorem set_suffix (tokens : List Token) : (set tokens).rest <:+ tokens := by
  refine rest_bind_suffix (expect_suffix _ tokens) fun _ rest => ?_
  refine rest_bind_suffix (definitions_suffix rest) fun items rest => ?_
  rw [rest_map]
  exact closeSet_suffix rest

theorem operand_suffix (tokens : List Token) : (operand tokens).rest <:+ tokens := by
  cases tokens with
  | nil => exact List.suffix_refl _
  | cons token rest =>
    rw [operand]
    split
    · rw [rest_map]
      exact set_suffix _
    · exact List.suffix_cons token rest
    · exact List.suffix_refl _

theorem subtrahend_suffix (operator : Token) (tokens : List Token) :
    (subtrahend operator tokens).rest <:+ tokens := by
  unfold subtrahend
  split
  · exact set_suffix tokens
  · exact List.suffix_refl _

/-- Reads the operators that follow an expression with their right operands. -/
def chain (left : Expr) (tokens : List Token) : Reading Expr :=
  match _ahead : tokens with
  | [] => .done left []
  | operator :: rest =>
    match operator.kind with
    | .setOpen | .dataPoint => .stuck .expectedOperator (operator :: rest)
    | .union =>
      match _read : operand rest with
      | .done right after => chain (.union left right) after
      | .stuck cause after => .stuck cause after
    | .setDifference =>
      match _read : subtrahend operator rest with
      | .done right after => chain (.difference left right) after
      | .stuck cause after => .stuck cause after
    | _ => .done left (operator :: rest)
termination_by tokens.length
decreasing_by
  · have shorter := (operand_suffix rest).length_le
    rw [_read] at shorter
    exact Nat.lt_succ_of_le shorter
  · have shorter := (subtrahend_suffix operator rest).length_le
    rw [_read] at shorter
    exact Nat.lt_succ_of_le shorter

theorem chain_suffix (left : Expr) (tokens : List Token) : (chain left tokens).rest <:+ tokens := by
  fun_induction chain left tokens with
  | case1 => exact List.suffix_refl _
  | case2 => exact List.suffix_refl _
  | case3 => exact List.suffix_refl _
  | case4 left operator rest _ right after read ih =>
    have shorter := operand_suffix rest
    rw [read] at shorter
    exact (ih.trans shorter).trans (List.suffix_cons operator rest)
  | case5 left operator rest _ cause after read =>
    have shorter := operand_suffix rest
    rw [read] at shorter
    exact shorter.trans (List.suffix_cons operator rest)
  | case6 left operator rest _ right after read ih =>
    have shorter := subtrahend_suffix operator rest
    rw [read] at shorter
    exact (ih.trans shorter).trans (List.suffix_cons operator rest)
  | case7 left operator rest _ cause after read =>
    have shorter := subtrahend_suffix operator rest
    rw [read] at shorter
    exact shorter.trans (List.suffix_cons operator rest)
  | case8 => exact List.suffix_refl _

def expression : List Token → Reading Expr
  | [] => .stuck .expectedExpression []
  | token :: rest =>
    match token.kind with
    | .setOpen | .dataPoint =>
      (operand (token :: rest)).bind fun first rest => chain (.operand first) rest
    | .union | .setDifference => .stuck (.noLeftOperand token.lexeme) (token :: rest)
    | _ => .stuck .expectedExpression (token :: rest)

theorem expression_suffix (tokens : List Token) : (expression tokens).rest <:+ tokens := by
  cases tokens with
  | nil => exact List.suffix_refl _
  | cons token rest =>
    rw [expression]
    split
    · exact rest_bind_suffix (operand_suffix _) fun _ _ => chain_suffix _ _
    · exact rest_bind_suffix (operand_suffix _) fun _ _ => chain_suffix _ _
    · exact List.suffix_refl _
    · exact List.suffix_refl _
    · exact List.suffix_refl _

def equation (tokens : List Token) : Reading Equation :=
  (dataPoint tokens).bind fun target rest =>
    (expect .equals rest).bind fun _ rest => (expression rest).map fun value => ⟨target, value⟩

theorem equation_suffix (tokens : List Token) : (equation tokens).rest <:+ tokens := by
  refine rest_bind_suffix (dataPoint_suffix tokens) fun target rest => ?_
  refine rest_bind_suffix (expect_suffix _ rest) fun _ rest => ?_
  rw [rest_map]
  exact expression_suffix rest

/-- Reads equations up to the end of the input. Unless the input ends after it, an equation is
followed by at least one newline. -/
def equations (tokens : List Token) : Reading Document :=
  if nextIs .endOfInput tokens then .done [] tokens
  else
    match _read : equation tokens with
    | .stuck cause after => .stuck cause after
    | .done first after =>
      if nextIs .endOfInput after then .done [first] after
      else
        match after with
        | [] => .stuck (.expected .newLine) []
        | token :: rest =>
          if token.kind = .newLine then (equations (skipNewLines rest)).map (first :: ·)
          else .stuck (.expected .newLine) (token :: rest)
termination_by tokens.length
decreasing_by
  have whole := (equation_suffix tokens).length_le
  have lines := (skipNewLines_suffix rest).length_le
  rw [_read] at whole
  simp only [Reading.rest, List.length_cons] at whole
  omega

theorem equations_suffix (tokens : List Token) : (equations tokens).rest <:+ tokens := by
  fun_induction equations tokens with
  | case1 => exact List.suffix_refl _
  | case2 tokens _ cause after read =>
    have shorter := equation_suffix tokens
    rwa [read] at shorter
  | case3 tokens _ first after read _ =>
    have shorter := equation_suffix tokens
    rwa [read] at shorter
  | case4 tokens _ first read _ =>
    have shorter := equation_suffix tokens
    rwa [read] at shorter
  | case5 tokens _ first token rest _ _ read _ ih =>
    have shorter := equation_suffix tokens
    rw [read] at shorter
    rw [rest_map]
    exact ((ih.trans (skipNewLines_suffix rest)).trans (List.suffix_cons token rest)).trans shorter
  | case6 tokens _ first token rest _ _ read _ =>
    have shorter := equation_suffix tokens
    rwa [read] at shorter

def document (tokens : List Token) : Reading Document :=
  (equations (skipNewLines tokens)).bind fun found rest =>
    match found with
    | [] => .stuck .noEquations rest
    | first :: more => .done (first :: more) rest

/-- Fails, at the tokens ahead, with a text of the caller. -/
def fail (text : String) (tokens : List Token) : Reading Unit :=
  .stuck (.other text) tokens

end Parser

end Reaching.Source
