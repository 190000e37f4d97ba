import Reaching.Proofs.Grammar.Accepted
import Reaching.Proofs.Grammar.Machine

/-! # No step of a reading fails

The machine of `Machine.lean` does what the readers of the grammar do.  At each stage the readers
say what is to be made of the tokens ahead (`outlook`), and a step never changes that: either it
ends with what they say, or the machine it leads to has the same outlook (`step_sound`).

A step that goes on keeps the stack to what its stage admits (`Fits`) and takes no token that ends
the input, so the first of those is always ahead or next.  With it there is a token to look at in
front of an operand, and behind an operator there is one expression to take.  A step that takes no
token comes nearer to one that does (`Stage.rank`), which bounds a run.

Main fact: the machine ends with the outcome of `parse`, within a number of steps that is linear in
the tokens, and at every machine on the way both faults are excluded (`reading_is_safe`). -/
set_option autoImplicit false

namespace Reaching.Source

namespace Reading

variable {α β γ : Type}

theorem bind_bind (reading : Reading α) (next : α → List Token → Reading β)
    (last : β → List Token → Reading γ) :
    (reading.bind next).bind last = reading.bind fun value rest => (next value rest).bind last := by
  cases reading <;> rfl

theorem map_bind (reading : Reading α) (f : α → β) (next : β → List Token → Reading γ) :
    (reading.map f).bind next = reading.bind fun value rest => next (f value) rest := by
  cases reading <;> rfl

end Reading

theorem Stream.peek_zero (stream : Stream) : stream.peek 0 = stream.rest.head? := by
  rw [Stream.rest, List.head?_drop]
  rfl

theorem Stream.rest_advance (stream : Stream) : stream.advance.2.rest = stream.rest.tail := by
  rw [Stream.rest, Stream.rest, List.tail_drop]
  rfl

namespace Machine

open Reaching.Source.Parser

/-! ## What the readers make of the tokens ahead -/

section
variable (document : Document) (target : Name)

def conclude (rest : List Token) : Reading Document :=
  if document = [] then .stuck .noEquations rest else .done document rest

def withLines (tokens : List Token) : Reading Document :=
  (equations (skipNewLines tokens)).bind fun more rest => conclude (document ++ more) rest

def withEnd (tokens : List Token) : Reading Document :=
  if Parser.nextIs .endOfInput tokens then conclude document tokens
  else (Parser.expect .newLine tokens).bind fun _ rest => withLines document rest

def withEquation (equation : Equation) : List Token → Reading Document :=
  withEnd (document ++ [equation])

def withLeft (left : Expr) (tokens : List Token) : Reading Document :=
  (chain left tokens).bind fun value rest => withEquation document ⟨target, value⟩ rest

def withItems (use : SetUse) (items : SetLiteral) (tokens : List Token) : Reading Document :=
  (closeSet tokens).bind fun _ rest => withLeft document target (use.apply items) rest

end

/-- What the readers make of the tokens ahead, each begun where the machine stands. -/
def outlook (m : Machine) : Reading Document :=
  match m.stage with
  | .lines => withLines m.document m.stream.rest
  | .target => (equation m.stream.rest).bind (withEquation m.document)
  | .sign target =>
    (Parser.expect .equals m.stream.rest).bind fun _ rest =>
      (expression rest).bind fun value rest => withEquation m.document ⟨target, value⟩ rest
  | .expression target =>
    match m.stack with
    | [] => (expression m.stream.rest).bind fun value rest =>
        withEquation m.document ⟨target, value⟩ rest
    | left :: _ => withLeft m.document target left m.stream.rest
  | .operator target operator =>
    match m.stack with
    | [] => .stuck (.noLeftOperand operator.lexeme) m.stream.rest
    | left :: _ =>
      if operator.kind = .setDifference then
        (subtrahend operator m.stream.rest).bind fun right rest =>
          withLeft m.document target (.difference left right) rest
      else
        (operand m.stream.rest).bind fun right rest =>
          withLeft m.document target (.union left right) rest
  | .operand target left =>
    (operand m.stream.rest).bind fun right rest =>
      withLeft m.document target (Expr.unite left right) rest
  | .opening target use =>
    (set m.stream.rest).bind fun items rest => withLeft m.document target (use.apply items) rest
  | .inside target use =>
    (definitions m.stream.rest).bind fun items rest => withItems m.document target use items rest
  | .definition target use items =>
    (definition m.stream.rest).bind fun name rest =>
      (moreDefinitions rest).bind fun more rest =>
        withItems m.document target use ((items ++ [name]) ++ more) rest
  | .comma target use items =>
    (moreDefinitions m.stream.rest).bind fun more rest =>
      withItems m.document target use (items ++ more) rest
  | .closing target use items => withItems m.document target use items m.stream.rest
  | .terminator => withEnd m.document m.stream.rest

def Fits (m : Machine) : Prop :=
  match m.stage with
  | .expression _ => m.stack.length ≤ 1
  | .operator _ _ => m.stack.length = 1
  | _ => m.stack = []

/-- Bounds the steps that are taken in a row without a token. -/
def Stage.rank : Stage → Nat
  | .expression _ => 3
  | .operator _ _ | .terminator => 2
  | .lines | .operand _ _ | .inside _ _ | .comma _ _ _ => 1
  | .target | .sign _ | .opening _ _ | .definition _ _ _ | .closing _ _ _ => 0

/-- Either no token is taken and the rank falls, or one that does not end the input is taken. -/
inductive Moves (m next : Machine) : Prop where
  | within (same : next.stream = m.stream) (lower : next.stage.rank < m.stage.rank)
  | past (moved : next.stream = m.stream.advance.2) (goesOn : m.nextIs .endOfInput = false)

structure Follows (m next : Machine) : Prop where
  fits : next.Fits
  outlook_eq : next.outlook = m.outlook
  moves : Moves m next

def Sound (m : Machine) : Outcome → Prop
  | .going next => Follows m next
  | .ended result => m.outlook.toExcept = result
  | .fault _ => False

/-! ## Steps of one kind -/

section
variable {m : Machine}

theorem nextIs_eq (m : Machine) (kind : Kind) : m.nextIs kind = Parser.nextIs kind m.stream.rest := by
  rw [Machine.nextIs, Stream.peek_zero]
  cases m.stream.rest <;> rfl

theorem sound_refuse {cause : Cause} (same : m.outlook = .stuck cause m.stream.rest) :
    Sound m (m.refuse cause) := by
  rw [refuse, Stream.peek_zero]
  exact congrArg Reading.toExcept same

/-- The token that the readers ask for is taken. -/
theorem sound_take {kind : Kind} {next : Machine} {token : Token} {rest : List Token}
    {after : Token → List Token → Reading Document} (ahead : m.stream.rest = token :: rest)
    (found : token.kind = kind) (goesOn : kind ≠ .endOfInput)
    (same : m.outlook = (Parser.expect kind m.stream.rest).bind after)
    (stream : next.stream = m.advance.stream) (fits : next.Fits)
    (outlook : next.outlook = after token m.advance.stream.rest) : Sound m (.going next) := by
  have later : m.advance.stream.rest = rest := by
    rw [advance, Stream.rest_advance, ahead, List.tail_cons]
  rw [ahead, Parser.expect, if_pos found] at same
  rw [later] at outlook
  refine ⟨fits, outlook.trans same.symm, .past stream ?_⟩
  rw [nextIs_eq, ahead, Parser.nextIs, found, decide_eq_false goesOn]

theorem sound_expect {kind : Kind} {next : Token → Machine → Machine}
    {after : Token → List Token → Reading Document} (goesOn : kind ≠ .endOfInput)
    (same : m.outlook = (Parser.expect kind m.stream.rest).bind after)
    (stream : ∀ token, (next token m.advance).stream = m.advance.stream)
    (fits : ∀ token, (next token m.advance).Fits)
    (outlook : ∀ token, (next token m.advance).outlook = after token m.advance.stream.rest) :
    Sound m (m.expect kind next) := by
  rw [Machine.expect, Stream.peek_zero]
  cases ahead : m.stream.rest with
  | nil =>
      apply sound_refuse
      rw [same, ahead]
      rfl
  | cons token rest =>
      simp only [List.head?_cons]
      split
      · rename_i found
        exact sound_take ahead found goesOn same (stream token) (fits token) (outlook token)
      · rename_i other
        apply sound_refuse
        rw [same, ahead, Parser.expect, if_neg other]
        rfl

/-! ## One step at each stage -/

variable {stream : Stream} {document : Document} {target : Name} {token : Token}
  {rest : List Token}

theorem skipNewLines_of_stops {tokens : List Token}
    (stops : Parser.nextIs .newLine tokens = false) : skipNewLines tokens = tokens :=
  skipNewLines_append newLines_nil stops

/-- What follows the equation that is read next. -/
theorem withLines_of_going (document : Document) {tokens : List Token}
    (stops : Parser.nextIs .newLine tokens = false) (going : ¬ Parser.nextIs .endOfInput tokens) :
    withLines document tokens = (equation tokens).bind (withEquation document) := by
  rw [withLines, skipNewLines_of_stops stops, equations_eq, if_neg going, Reading.bind_bind]
  refine congrArg _ (funext fun first => funext fun rest => ?_)
  rw [withEquation, withEnd]
  split
  · rfl
  · rw [Reading.bind_bind]
    refine congrArg _ (funext fun _ => funext fun later => ?_)
    rw [newLines, Reading.bind, Reading.map_bind, withLines]
    simp only [List.append_assoc, List.cons_append, List.nil_append]

theorem withLines_of_end (document : Document) {tokens : List Token}
    (closed : Parser.nextIs .endOfInput tokens = true) :
    withLines document tokens = conclude document tokens := by
  rw [withLines, skipNewLines_of_stops (nextIs_other closed nofun), equations_eq, if_pos closed,
    Reading.bind, List.append_nil]

theorem withLines_of_newLine (document : Document) {tokens : List Token}
    (newline : Parser.nextIs .newLine tokens = true) :
    withLines document tokens = withLines document tokens.tail := by
  obtain ⟨token, rest, rfl, ends⟩ := exists_of_nextIs newline
  rw [withLines, withLines, skipNewLines, if_pos ends]
  rfl

theorem sound_lines :
    Sound ⟨stream, document, [], .lines⟩ (stepLines ⟨stream, document, [], .lines⟩) := by
  have left : outlook ⟨stream, document, [], .lines⟩ = withLines document stream.rest := rfl
  rw [stepLines, nextIs_eq, nextIs_eq]
  split
  · rename_i newline
    rw [withLines_of_newLine document newline, ← Stream.rest_advance] at left
    refine ⟨rfl, left.symm, .past rfl ?_⟩
    rw [nextIs_eq]
    exact nextIs_other newline nofun
  · rename_i other
    split
    · rename_i closed
      rw [withLines_of_end document closed, conclude] at left
      split
      · rename_i none
        rw [if_pos none] at left
        exact sound_refuse left
      · rename_i some
        rw [if_neg some] at left
        exact congrArg Reading.toExcept left
    · rename_i going
      rw [withLines_of_going document (Bool.not_eq_true _ ▸ other) going] at left
      exact ⟨rfl, left.symm, .within rfl Nat.zero_lt_one⟩

/-! ### Expressions

The stack is empty in front of the first operand and holds one expression afterwards. -/

theorem sound_expression_first (ahead : stream.rest = token :: rest) :
    Sound ⟨stream, document, [], .expression target⟩
      (stepExpression ⟨stream, document, [], .expression target⟩ target) := by
  have left : outlook ⟨stream, document, [], .expression target⟩ =
      (expression (token :: rest)).bind fun value rest =>
        withEquation document ⟨target, value⟩ rest := ahead ▸ rfl
  have begun : expression (token :: rest) = (operand (token :: rest)).bind (fun first rest =>
      chain (.operand first) rest) → Sound ⟨stream, document, [], .expression target⟩
        (.going ⟨stream, document, [], .operand target none⟩) := by
    intro started
    rw [started, Reading.bind_bind, ← ahead] at left
    exact ⟨rfl, left.symm, .within rfl (Nat.lt_add_of_pos_right Nat.zero_lt_two)⟩
  have refused : ∀ cause, expression (token :: rest) = .stuck cause (token :: rest) →
      Sound ⟨stream, document, [], .expression target⟩
        (refuse ⟨stream, document, [], .expression target⟩ cause) := by
    intro cause stuck
    apply sound_refuse
    rw [left, stuck, ← ahead]
    rfl
  rw [stepExpression, Stream.peek_zero, ahead, List.head?_cons]
  cases kind : token.kind <;> simp only [kind, reduceIte]
  case setOpen => exact begun (by rw [expression, kind])
  case dataPoint => exact begun (by rw [expression, kind])
  all_goals exact refused _ (by rw [expression, kind])

theorem sound_expression_next {value : Expr} (ahead : stream.rest = token :: rest) :
    Sound ⟨stream, document, [value], .expression target⟩
      (stepExpression ⟨stream, document, [value], .expression target⟩ target) := by
  have left : outlook ⟨stream, document, [value], .expression target⟩ =
      withLeft document target value (token :: rest) := ahead ▸ rfl
  have refused : ∀ cause, chain value (token :: rest) = .stuck cause (token :: rest) →
      Sound ⟨stream, document, [value], .expression target⟩
        (refuse ⟨stream, document, [value], .expression target⟩ cause) := by
    intro cause stuck
    apply sound_refuse
    rw [left, withLeft, stuck, ← ahead]
    rfl
  have taken : token.kind = .union ∨ token.kind = .setDifference →
      outlook ⟨stream.advance.2, document, [value], .operator target token⟩ =
        withLeft document target value (token :: rest) →
      Sound ⟨stream, document, [value], .expression target⟩
        (.going ⟨stream.advance.2, document, [value], .operator target token⟩) := by
    intro operator same
    refine ⟨rfl, same.trans left.symm, .past rfl ?_⟩
    rw [nextIs_eq]
    change Parser.nextIs _ stream.rest = _
    rw [ahead, Parser.nextIs]
    rcases operator with kind | kind <;> rw [kind] <;> rfl
  have ended : chain value (token :: rest) = .done value (token :: rest) →
      Sound ⟨stream, document, [value], .expression target⟩
        (.going ⟨stream, document ++ [⟨target, value⟩], [], .terminator⟩) := by
    intro done
    refine ⟨rfl, ?_, .within rfl (Nat.lt_succ_self 2)⟩
    rw [left, withLeft, done, ← ahead]
    rfl
  have after : stream.advance.2.rest = rest := by rw [Stream.rest_advance, ahead, List.tail_cons]
  rw [stepExpression, Stream.peek_zero, ahead, List.head?_cons]
  cases kind : token.kind <;> simp only [kind, reduceIte, reduceCtorEq, pop]
  case setOpen => exact refused _ (by simp [chain_eq, Parser.nextIs, kind])
  case dataPoint => exact refused _ (by simp [chain_eq, Parser.nextIs, kind])
  case union =>
    refine taken (.inl kind) ?_
    rw [withLeft, chain_eq, if_pos (nextIs_of_kind rest kind), Parser.expect, if_pos kind,
      Reading.bind, Reading.bind_bind, outlook]
    simp only [kind, reduceCtorEq, if_false, after]
    rfl
  case setDifference =>
    refine taken (.inr kind) ?_
    rw [withLeft, chain_eq, if_neg (by simp [Parser.nextIs, kind]),
      if_pos (nextIs_of_kind rest kind), Parser.expect, if_pos kind, Reading.bind,
      Reading.bind_bind, outlook]
    simp only [kind, if_true, after]
    rfl
  all_goals exact ended (by simp [chain_eq, Parser.nextIs, kind])

theorem sound_operator {value : Expr} (operator : Token) :
    Sound ⟨stream, document, [value], .operator target operator⟩
      (stepOperator ⟨stream, document, [value], .operator target operator⟩ target operator) := by
  simp only [stepOperator, pop, nextIs_eq]
  split
  · rename_i subtracts
    have left : outlook ⟨stream, document, [value], .operator target operator⟩ =
        (subtrahend operator stream.rest).bind fun right rest =>
          withLeft document target (.difference value right) rest := if_pos subtracts
    rw [subtrahend] at left
    split
    · rename_i opens
      rw [if_pos opens] at left
      exact ⟨rfl, left.symm, .within rfl Nat.zero_lt_two⟩
    · rename_i other
      rw [if_neg other] at left
      exact sound_refuse left
  · rename_i unites
    have left : outlook ⟨stream, document, [value], .operator target operator⟩ =
        (operand stream.rest).bind fun right rest =>
          withLeft document target (.union value right) rest := if_neg unites
    exact ⟨rfl, left.symm, .within rfl Nat.one_lt_two⟩

theorem sound_operand (value : Option Expr) :
    Sound ⟨stream, document, [], .operand target value⟩
      (stepOperand ⟨stream, document, [], .operand target value⟩ target value) := by
  have left : outlook ⟨stream, document, [], .operand target value⟩ =
      (operand stream.rest).bind fun right rest =>
        withLeft document target (Expr.unite value right) rest := rfl
  rw [operand_eq] at left
  rw [stepOperand, nextIs_eq, nextIs_eq]
  split
  · rename_i opens
    rw [if_pos opens, Reading.map_bind] at left
    exact ⟨rfl, left.symm, .within rfl Nat.zero_lt_one⟩
  · rename_i other
    rw [if_neg other] at left
    split
    · rename_i named
      rw [if_pos named, Reading.map_bind, dataPoint, Reading.map_bind] at left
      exact sound_expect (by decide) left (fun _ => rfl) (fun _ => Nat.le_refl 1) fun token => rfl
    · rename_i unnamed
      rw [if_neg unnamed] at left
      exact sound_refuse left

/-! ### Sets -/

theorem sound_opening (use : SetUse) :
    Sound ⟨stream, document, [], .opening target use⟩
      (step ⟨stream, document, [], .opening target use⟩) := by
  have left : outlook ⟨stream, document, [], .opening target use⟩ =
      (Parser.set stream.rest).bind fun items rest =>
        withLeft document target (use.apply items) rest := rfl
  rw [Parser.set, Reading.bind_bind] at left
  simp only [step]
  refine sound_expect (by decide) left (fun _ => rfl) (fun _ => rfl) fun token => ?_
  simp only [Reading.bind_bind, Reading.map_bind]
  rfl

theorem sound_inside (use : SetUse) :
    Sound ⟨stream, document, [], .inside target use⟩
      (step ⟨stream, document, [], .inside target use⟩) := by
  have left : outlook ⟨stream, document, [], .inside target use⟩ =
      (definitions stream.rest).bind fun items rest =>
        withItems document target use items rest := rfl
  rw [definitions] at left
  simp only [step, nextIs_eq]
  split
  · rename_i defined
    rw [if_pos defined, Reading.bind_bind] at left
    simp only [Reading.map_bind] at left
    exact ⟨rfl, left.symm, .within rfl Nat.zero_lt_one⟩
  · rename_i other
    rw [if_neg other] at left
    exact ⟨rfl, left.symm, .within rfl Nat.zero_lt_one⟩

theorem sound_definition (use : SetUse) (items : SetLiteral) :
    Sound ⟨stream, document, [], .definition target use items⟩
      (step ⟨stream, document, [], .definition target use items⟩) := by
  have left : outlook ⟨stream, document, [], .definition target use items⟩ =
      (definition stream.rest).bind fun name rest =>
        (moreDefinitions rest).bind fun more rest =>
          withItems document target use ((items ++ [name]) ++ more) rest := rfl
  rw [definition, Reading.map_bind] at left
  simp only [step]
  exact sound_expect (by decide) left (fun _ => rfl) (fun _ => rfl) fun token => rfl

theorem sound_comma (use : SetUse) (items : SetLiteral) :
    Sound ⟨stream, document, [], .comma target use items⟩
      (step ⟨stream, document, [], .comma target use items⟩) := by
  have left : outlook ⟨stream, document, [], .comma target use items⟩ =
      (moreDefinitions stream.rest).bind fun more rest =>
        withItems document target use (items ++ more) rest := rfl
  rw [moreDefinitions_eq] at left
  simp only [step, nextIs_eq]
  split
  · rename_i separated
    obtain ⟨token, rest, ahead, separates⟩ := exists_of_nextIs separated
    rw [if_pos separated, Reading.bind_bind] at left
    refine sound_take ahead separates (by decide) left rfl rfl ?_
    simp only [outlook, goTo, advance, Reading.bind_bind, Reading.map_bind, List.append_assoc,
      List.cons_append, List.nil_append]
  · rename_i other
    rw [if_neg other, Reading.bind, List.append_nil] at left
    exact ⟨rfl, left.symm, .within rfl Nat.zero_lt_one⟩

theorem sound_closing (use : SetUse) (items : SetLiteral) :
    Sound ⟨stream, document, [], .closing target use items⟩
      (stepClosing ⟨stream, document, [], .closing target use items⟩ target use items) := by
  have left : outlook ⟨stream, document, [], .closing target use items⟩ =
      withItems document target use items stream.rest := rfl
  rw [withItems, closeSet_eq] at left
  rw [stepClosing, nextIs_eq]
  split
  · rename_i closed
    obtain ⟨token, rest, ahead, closes⟩ := exists_of_nextIs closed
    rw [if_pos closed, Reading.map_bind] at left
    exact sound_take ahead closes (by decide) left rfl (Nat.le_refl 1) rfl
  · rename_i other
    rw [if_neg other] at left
    exact sound_refuse left

/-! ### Every stage -/

theorem sound_terminator :
    Sound ⟨stream, document, [], .terminator⟩ (step ⟨stream, document, [], .terminator⟩) := by
  have left : outlook ⟨stream, document, [], .terminator⟩ = withEnd document stream.rest := rfl
  rw [withEnd] at left
  simp only [step, nextIs_eq]
  split
  · rename_i closed
    rw [if_pos closed, ← withLines_of_end document closed] at left
    exact ⟨rfl, left.symm, .within rfl Nat.one_lt_two⟩
  · rename_i going
    rw [if_neg going] at left
    exact sound_expect (by decide) left (fun _ => rfl) (fun _ => rfl) fun token => rfl

theorem sound_step (fits : m.Fits) (ahead : m.stream.rest = token :: rest) : Sound m m.step := by
  obtain ⟨stream, document, stack, stage⟩ := m
  cases stage with
  | lines =>
      cases (fits : stack = [])
      exact sound_lines
  | target =>
      cases (fits : stack = [])
      have left : outlook ⟨stream, document, [], .target⟩ =
          (equation stream.rest).bind (withEquation document) := rfl
      rw [equation, dataPoint, Reading.map_bind, Reading.bind_bind] at left
      simp only [step]
      refine sound_expect (by decide) left (fun _ => rfl) (fun _ => rfl) fun token => ?_
      simp only [Reading.bind_bind, Reading.map_bind]
      rfl
  | sign target =>
      cases (fits : stack = [])
      have left : outlook ⟨stream, document, [], .sign target⟩ =
          (Parser.expect .equals stream.rest).bind fun _ rest =>
            (expression rest).bind fun value rest => withEquation document ⟨target, value⟩ rest := rfl
      simp only [step]
      exact sound_expect (by decide) left (fun _ => rfl) (fun _ => Nat.zero_le 1) fun token => rfl
  | expression target =>
      have short : stack.length ≤ 1 := fits
      cases stack with
      | nil => exact sound_expression_first ahead
      | cons value stack =>
          obtain rfl : stack = [] := List.length_eq_zero_iff.mp (Nat.le_zero.mp
            (Nat.le_of_succ_le_succ short))
          exact sound_expression_next ahead
  | operator target operator =>
      obtain ⟨value, rfl⟩ := List.length_eq_one_iff.mp fits
      exact sound_operator operator
  | operand target left =>
      cases (fits : stack = [])
      exact sound_operand left
  | opening target use =>
      cases (fits : stack = [])
      exact sound_opening use
  | inside target use =>
      cases (fits : stack = [])
      exact sound_inside use
  | definition target use items =>
      cases (fits : stack = [])
      exact sound_definition use items
  | comma target use items =>
      cases (fits : stack = [])
      exact sound_comma use items
  | closing target use items =>
      cases (fits : stack = [])
      exact sound_closing use items
  | terminator =>
      cases (fits : stack = [])
      exact sound_terminator

end

/-! ## Runs -/

def endPlace (tokens : List Token) : Nat := (held tokens).findIdx (·.kind = .endOfInput)

theorem endPlace_lt_length (tokens : List Token) : endPlace tokens < (held tokens).length := by
  obtain ⟨rest, whole, closed⟩ := held_eq tokens
  obtain ⟨token, more, rfl, closes⟩ := exists_of_nextIs closed
  refine List.findIdx_lt_length_of_exists ⟨token, ?_, decide_eq_true closes⟩
  rw [whole]
  exact List.mem_append_right _ List.mem_cons_self

structure Within (tokens : List Token) (m : Machine) : Prop where
  tokens_eq : m.stream.tokens = held tokens
  taken_le : m.stream.taken ≤ endPlace tokens
  fits : m.Fits
  outlook_eq : m.outlook = Parser.document (held tokens)

variable {tokens : List Token} {m next : Machine}

theorem within_start (tokens : List Token) : Within tokens (start tokens) where
  tokens_eq := rfl
  taken_le := Nat.zero_le _
  fits := rfl
  outlook_eq := by
    refine congrArg (equations (skipNewLines (held tokens))).bind
      (funext fun found => funext fun rest => ?_)
    cases found <;> rfl

theorem Within.exists_ahead (inside : Within tokens m) :
    ∃ token rest, m.stream.rest = token :: rest := by
  refine List.exists_cons_of_length_pos ?_
  have bound := endPlace_lt_length tokens
  have place := inside.taken_le
  rw [Stream.rest, List.length_drop, inside.tokens_eq]
  omega

theorem Within.sound (inside : Within tokens m) : Sound m m.step := by
  obtain ⟨token, rest, ahead⟩ := inside.exists_ahead
  exact sound_step inside.fits ahead

/-- A token that does not end the input stands before the first that does. -/
theorem Within.taken_lt (inside : Within tokens m) (goesOn : m.nextIs .endOfInput = false) :
    m.stream.taken < endPlace tokens := by
  refine lt_of_le_of_ne inside.taken_le fun same => ?_
  have bound := endPlace_lt_length tokens
  have closes : decide ((held tokens)[endPlace tokens].kind = .endOfInput) = true :=
    @List.findIdx_getElem Token (fun token => token.kind = .endOfInput) _ bound
  have ahead : m.stream.peek 0 = some (held tokens)[endPlace tokens] := by
    change m.stream.tokens[m.stream.taken]? = _
    rw [inside.tokens_eq, same, List.getElem?_eq_getElem bound]
  rw [nextIs, ahead, Option.any_some, closes] at goesOn
  cases goesOn

/-- Falls with every step. -/
def left (tokens : List Token) (m : Machine) : Nat :=
  4 * (endPlace tokens - m.stream.taken) + m.stage.rank

theorem rank_le (stage : Stage) : stage.rank ≤ 3 := by
  cases stage <;> simp [Stage.rank]

theorem Within.step (inside : Within tokens m) (taken : m.step = .going next) :
    Within tokens next ∧ left tokens next < left tokens m := by
  have follows : Follows m next := by
    have sound := inside.sound
    rwa [taken] at sound
  have same := follows.outlook_eq.trans inside.outlook_eq
  -- A token that is taken counts for more than the rank can rise.
  cases follows.moves with
  | within stream lower =>
      refine ⟨⟨?_, ?_, follows.fits, same⟩, ?_⟩
      · rw [stream, inside.tokens_eq]
      · rw [stream]
        exact inside.taken_le
      · rw [left, left, stream]
        omega
  | past stream goesOn =>
      have before := inside.taken_lt goesOn
      have bound := rank_le next.stage
      refine ⟨⟨?_, ?_, follows.fits, same⟩, ?_⟩
      · rw [stream]
        exact inside.tokens_eq
      · rw [stream]
        exact before
      · rw [left, left, stream]
        change 4 * (endPlace tokens - (m.stream.taken + 1)) + _ < _
        omega

theorem Reaches.within (reached : Reaches tokens m) : Within tokens m := by
  induction reached with
  | start => exact within_start tokens
  | next before taken ih => exact (ih.step taken).1

theorem Within.run_eq (inside : Within tokens m) (steps : Nat) (enough : left tokens m < steps) :
    run steps m = .ended (parse tokens) := by
  induction steps generalizing m with
  | zero => omega
  | succ steps ih =>
      have sound := inside.sound
      rw [run]
      cases taken : m.step with
      | going next =>
          obtain ⟨later, fewer⟩ := inside.step taken
          exact ih later (by omega)
      | ended result =>
          rw [taken] at sound
          exact congrArg Outcome.ended (sound.symm.trans (congrArg _ inside.outlook_eq))
      | fault fault =>
          rw [taken] at sound
          exact sound.elim

theorem Fits.length_le (fits : m.Fits) : m.stack.length ≤ 1 := by
  obtain ⟨stream, document, stack, stage⟩ := m
  cases stage with
  | expression target => exact fits
  | operator target operator => exact le_of_eq fits
  | _ => exact le_of_eq_of_le (congrArg List.length fits) (Nat.zero_le 1)

end Machine

/-- The reading of any token list ends, with what parsing gives, and no step of it fails. -/
theorem reading_is_safe (tokens : List Token) :
    Machine.run (4 * Machine.endPlace tokens + 2) (Machine.start tokens) =
        .ended (parse tokens) ∧
      Machine.endPlace tokens < (held tokens).length ∧
      ∀ m, Machine.Reaches tokens m →
        m.stream.tokens = held tokens ∧ m.stream.taken ≤ Machine.endPlace tokens ∧
          (∃ token, m.stream.peek 0 = some token) ∧ m.stack.length ≤ 1 ∧
          ∀ fault, m.step ≠ .fault fault := by
  refine ⟨?_, Machine.endPlace_lt_length tokens, fun m reached => ?_⟩
  · exact (Machine.within_start tokens).run_eq _ (Nat.lt_succ_self _)
  · have inside := reached.within
    refine ⟨inside.tokens_eq, inside.taken_le, ?_, inside.fits.length_le, fun fault failed => ?_⟩
    · obtain ⟨token, rest, ahead⟩ := inside.exists_ahead
      exact ⟨token, by rw [Stream.peek_zero, ahead, List.head?_cons]⟩
    · have sound := inside.sound
      rw [failed] at sound
      exact sound

def interrupted : List Token :=
  [⟨.dataPoint, "L1", ⟨1, 1⟩⟩, ⟨.equals, "=", ⟨1, 3⟩⟩, ⟨.comment, "#", ⟨1, 4⟩⟩,
    ⟨.dataPoint, "L2", ⟨2, 1⟩⟩, ⟨.union, "U", ⟨2, 4⟩⟩, ⟨.endOfInput, "", ⟨2, 5⟩⟩,
    ⟨.unknown, "?", ⟨2, 6⟩⟩]

/-- Behind the operator all tokens before the end are taken and one expression is on the stack. -/
theorem reading_is_safe_interrupted :
    (∃ m, Machine.Reaches interrupted m ∧
      m.stack = [.operand (.point ⟨"L2", ⟨2, 1⟩⟩)] ∧ m.stream.taken = 4 ∧
      m.stream.taken ≤ Machine.endPlace interrupted ∧ (∃ token, m.stream.peek 0 = some token) ∧
      m.stack.length ≤ 1 ∧ ∀ fault, m.step ≠ .fault fault) ∧
    parse interrupted = .error ⟨.expectedOperand, some ⟨.endOfInput, "", ⟨2, 5⟩⟩⟩ := by
  have reached : Machine.Reaches interrupted ⟨⟨held interrupted, 4⟩, [],
      [.operand (.point ⟨"L2", ⟨2, 1⟩⟩)], .operator ⟨"L1", ⟨1, 1⟩⟩ ⟨.union, "U", ⟨2, 4⟩⟩⟩ :=
    .next (.next (.next (.next (.next (.next .start rfl) rfl) rfl) rfl) rfl) rfl
  obtain ⟨run, _, safe⟩ := reading_is_safe interrupted
  obtain ⟨_, place, ahead, height, faultless⟩ := safe _ reached
  refine ⟨⟨_, reached, rfl, rfl, place, ahead, height, faultless⟩, ?_⟩
  exact (Machine.Outcome.ended.inj run).symm

end Reaching.Source
