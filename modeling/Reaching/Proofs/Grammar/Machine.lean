import Reaching.Proofs.Grammar.Readers

/-! # Reading one token at a time

A machine that reads a document as a loop does: it keeps the equations read so far, a stack of
operands and the place in the grammar where it stands (`Stage`), and a step of it takes at most one
token.  An operator takes its left operand from the stack and puts the larger expression back.

Two steps rest on what came before them.  In front of an operand or operator the kind of the next
token is read without asking whether there is one, and an expression is taken from the stack without
asking whether the stack is empty.  Both are kept as faults of their own, apart from the refusals
of a document. -/
set_option autoImplicit false

namespace Reaching.Source

inductive SetUse where
  | operand (left : Option Expr)
  | subtrahend (left : Expr)
  deriving DecidableEq, Repr

def Expr.unite : Option Expr → Operand → Expr
  | none, right => .operand right
  | some left, right => .union left right

def SetUse.apply : SetUse → SetLiteral → Expr
  | operand left, items => Expr.unite left (.set items)
  | subtrahend left, items => .difference left items

namespace Machine

inductive Stage where
  | lines
  | target
  | sign (target : Name)
  | expression (target : Name)
  | operator (target : Name) (operator : Token)
  | operand (target : Name) (left : Option Expr)
  | opening (target : Name) (use : SetUse)
  | inside (target : Name) (use : SetUse)
  | definition (target : Name) (use : SetUse) (items : SetLiteral)
  | comma (target : Name) (use : SetUse) (items : SetLiteral)
  | closing (target : Name) (use : SetUse) (items : SetLiteral)
  | terminator
  deriving DecidableEq, Repr

inductive Fault where
  | noToken
  | emptyStack
  deriving DecidableEq, Repr

end Machine

/-- The end of the stack where operands are put and taken is its head. -/
structure Machine where
  stream : Stream
  document : Document
  stack : List Expr
  stage : Machine.Stage
  deriving DecidableEq, Repr

namespace Machine

inductive Outcome where
  | going (next : Machine)
  | ended (result : Except ParseError Document)
  | fault (fault : Fault)
  deriving Repr

def start (tokens : List Token) : Machine := ⟨.ofTokens tokens, [], [], .lines⟩

/-! ## Steps -/

section
variable (m : Machine)

def nextIs (kind : Kind) : Bool := (m.stream.peek 0).any (·.kind = kind)

def advance : Machine := { m with stream := m.stream.advance.2 }

def goTo (stage : Stage) : Machine := { m with stage := stage }

def push (value : Expr) : Machine := { m with stack := value :: m.stack }

def pop (next : Expr → Machine → Outcome) : Outcome :=
  match m.stack with
  | [] => .fault .emptyStack
  | value :: stack => next value { m with stack := stack }

def refuse (cause : Cause) : Outcome := .ended (.error ⟨cause, m.stream.peek 0⟩)

def expect (kind : Kind) (next : Token → Machine → Machine) : Outcome :=
  match m.stream.peek 0 with
  | none => m.refuse (.expected kind)
  | some token =>
    if token.kind = kind then .going (next token m.advance) else m.refuse (.expected kind)

def stepLines : Outcome :=
  if m.nextIs .newLine then .going m.advance
  else if m.nextIs .endOfInput then
    if m.document = [] then m.refuse .noEquations else .ended (.ok m.document)
  else .going (m.goTo .target)

def stepExpression (target : Name) : Outcome :=
  match m.stream.peek 0 with
  | none => .fault .noToken
  | some token =>
    match token.kind with
    | .setOpen | .dataPoint =>
      if m.stack = [] then .going (m.goTo (.operand target none)) else m.refuse .expectedOperator
    | .union | .setDifference =>
      if m.stack = [] then m.refuse (.noLeftOperand token.lexeme)
      else .going (m.advance.goTo (.operator target token))
    | _ =>
      if m.stack = [] then m.refuse .expectedExpression
      else m.pop fun value m =>
        .going { m with document := m.document ++ [⟨target, value⟩], stage := .terminator }

def stepOperator (target : Name) (operator : Token) : Outcome :=
  m.pop fun left m =>
    if operator.kind = .setDifference then
      if m.nextIs .setOpen then .going (m.goTo (.opening target (.subtrahend left)))
      else m.refuse (.expectedSetAfter operator.lexeme)
    else .going (m.goTo (.operand target (some left)))

def stepOperand (target : Name) (left : Option Expr) : Outcome :=
  if m.nextIs .setOpen then .going (m.goTo (.opening target (.operand left)))
  else if m.nextIs .dataPoint then
    m.expect .dataPoint fun token m =>
      (m.push (.unite left (.point (.ofToken token)))).goTo (.expression target)
  else m.refuse .expectedOperand

def stepClosing (target : Name) (use : SetUse) (items : SetLiteral) : Outcome :=
  if m.nextIs .setClose then .going ((m.advance.push (use.apply items)).goTo (.expression target))
  else m.refuse .unterminatedSet

def step : Outcome :=
  match m.stage with
  | .lines => m.stepLines
  | .target => m.expect .dataPoint fun token m => m.goTo (.sign (.ofToken token))
  | .sign target => m.expect .equals fun _ m => m.goTo (.expression target)
  | .expression target => m.stepExpression target
  | .operator target operator => m.stepOperator target operator
  | .operand target left => m.stepOperand target left
  | .opening target use => m.expect .setOpen fun _ m => m.goTo (.inside target use)
  | .inside target use =>
    if m.nextIs .definition then .going (m.goTo (.definition target use []))
    else .going (m.goTo (.closing target use []))
  | .definition target use items =>
    m.expect .definition fun token m => m.goTo (.comma target use (items ++ [.ofToken token]))
  | .comma target use items =>
    if m.nextIs .comma then .going (m.advance.goTo (.definition target use items))
    else .going (m.goTo (.closing target use items))
  | .closing target use items => m.stepClosing target use items
  | .terminator =>
    if m.nextIs .endOfInput then .going (m.goTo .lines)
    else m.expect .newLine fun _ m => m.goTo .lines

end

/-! ## Runs -/

def run : Nat → Machine → Outcome
  | 0, m => .going m
  | steps + 1, m =>
    match m.step with
    | .going next => run steps next
    | outcome => outcome

inductive Reaches (tokens : List Token) : Machine → Prop where
  | start : Reaches tokens (Machine.start tokens)
  | next {m next : Machine} (before : Reaches tokens m) (taken : m.step = .going next) :
      Reaches tokens next

end Machine

end Reaching.Source
