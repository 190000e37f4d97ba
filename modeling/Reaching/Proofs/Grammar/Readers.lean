import Reaching.Proofs.Grammar.Spelling

/-! # The readers follow the rules

The readers that look at several tokens at a time are first put as steps, one after the other
(`…_eq`).

For each reader two facts: what it has read is spelled by the tokens that it took (`…_sound`), and
it reads whatever is spelled by the tokens ahead, leaving the rest (`…_complete`).  A reader that
repeats takes as much as it can, so what is left must not begin with a token that goes on: no
comma after definitions, no operator and no operand after an expression (`EndsExpr`).

An expression is written with its last operator last and read with its first operator first.
`expression_complete` bridges this: to read the tokens of an expression is to go on with `chain`
from that expression, whatever follows. -/
set_option autoImplicit false

namespace Reaching.Source.Parser

theorem dataPoint_ofToken {token : Token} (kind : token.kind = .dataPoint) :
    (Name.ofToken token).dataPoint = token := by
  cases token
  cases kind
  rfl

theorem definition_ofToken {token : Token} (kind : token.kind = .definition) :
    (Name.ofToken token).definition = token := by
  cases token
  cases kind
  rfl

theorem expect_eq_done {kind : Kind} {tokens rest : List Token} {token : Token} :
    expect kind tokens = .done token rest ↔ tokens = token :: rest ∧ token.kind = kind := by
  cases tokens with
  | nil => simp [expect]
  | cons head tail =>
      rw [expect]
      by_cases same : head.kind = kind
      · rw [if_pos same, Reading.done.injEq, List.cons.injEq]
        constructor
        · rintro ⟨rfl, rfl⟩
          exact ⟨⟨rfl, rfl⟩, same⟩
        · exact fun h => h.1
      · rw [if_neg same]
        constructor
        · intro h
          cases h
        · rintro ⟨h, other⟩
          cases h
          exact absurd other same

theorem bind_eq_done {α β : Type} {reading : Reading α} {next : α → List Token → Reading β}
    {value : β} {rest : List Token} :
    reading.bind next = .done value rest ↔
      ∃ first left, reading = .done first left ∧ next first left = .done value rest := by
  cases reading with
  | done first left =>
      constructor
      · exact fun read => ⟨first, left, rfl, read⟩
      · rintro ⟨_, _, same, read⟩
        cases same
        exact read
  | stuck cause left => simp [Reading.bind]

theorem map_eq_done {α β : Type} {reading : Reading α} {f : α → β} {value : β}
    {rest : List Token} :
    reading.map f = .done value rest ↔ ∃ first, reading = .done first rest ∧ f first = value := by
  rw [Reading.map, bind_eq_done]
  constructor
  · rintro ⟨first, left, read, same⟩
    cases same
    exact ⟨first, read, rfl⟩
  · rintro ⟨first, read, rfl⟩
    exact ⟨first, rest, read, rfl⟩

/-! ## The next token -/

theorem nextIs_of_kind {kind : Kind} {token : Token} (tokens : List Token)
    (same : token.kind = kind) : nextIs kind (token :: tokens) = true := by
  rw [nextIs, same, decide_eq_true rfl]

theorem exists_of_nextIs {kind : Kind} {tokens : List Token} (next : nextIs kind tokens = true) :
    ∃ token rest, tokens = token :: rest ∧ token.kind = kind := by
  cases tokens with
  | nil => cases next
  | cons token rest => exact ⟨token, rest, rfl, of_decide_eq_true next⟩

theorem nextIs_other {kind other : Kind} {tokens : List Token} (next : nextIs kind tokens = true)
    (differ : kind ≠ other) : nextIs other tokens = false := by
  obtain ⟨token, rest, rfl, rfl⟩ := exists_of_nextIs next
  exact decide_eq_false differ

/-! ## The readers as steps, one after the other -/

theorem moreDefinitions_eq (tokens : List Token) :
    moreDefinitions tokens =
      if nextIs .comma tokens then
        (expect .comma tokens).bind fun _ rest =>
          (definition rest).bind fun first rest => (moreDefinitions rest).map (first :: ·)
      else .done [] tokens := by
  match tokens with
  | [] => rfl
  | [comma] =>
      by_cases separates : comma.kind = .comma
      · simp [moreDefinitions, nextIs, expect, definition, Reading.bind, Reading.map, separates]
      · simp [moreDefinitions, nextIs, separates]
  | comma :: name :: rest =>
      by_cases separates : comma.kind = .comma
      · by_cases defined : name.kind = .definition
        · simp [moreDefinitions, nextIs, expect, definition, Reading.bind, Reading.map, separates,
            defined]
        · simp [moreDefinitions, nextIs, expect, definition, Reading.bind, Reading.map, separates,
            defined]
      · simp [moreDefinitions, nextIs, separates]

theorem closeSet_eq (tokens : List Token) :
    closeSet tokens =
      if nextIs .setClose tokens then (expect .setClose tokens).map fun _ => ()
      else .stuck .unterminatedSet tokens := by
  cases tokens with
  | nil => rfl
  | cons token rest =>
      by_cases closes : token.kind = .setClose
      · simp [closeSet, nextIs, expect, Reading.map, Reading.bind, closes]
      · simp [closeSet, nextIs, closes]

theorem operand_eq (tokens : List Token) :
    operand tokens =
      if nextIs .setOpen tokens then (set tokens).map .set
      else if nextIs .dataPoint tokens then (dataPoint tokens).map .point
      else .stuck .expectedOperand tokens := by
  cases tokens with
  | nil => rfl
  | cons token rest =>
      rw [operand]
      split
      · rename_i opens
        rw [if_pos (nextIs_of_kind rest opens)]
      · rename_i named
        rw [if_neg (by simp [nextIs, named]), if_pos (nextIs_of_kind rest named), dataPoint, expect,
          if_pos named]
        rfl
      · rename_i noSet noPoint
        rw [if_neg (by simpa [nextIs] using noSet), if_neg (by simpa [nextIs] using noPoint)]

theorem chain_eq (left : Expr) (tokens : List Token) :
    chain left tokens =
      if nextIs .union tokens then
        (expect .union tokens).bind fun _ rest =>
          (operand rest).bind fun right rest => chain (.union left right) rest
      else if nextIs .setDifference tokens then
        (expect .setDifference tokens).bind fun operator rest =>
          (subtrahend operator rest).bind fun right rest => chain (.difference left right) rest
      else if nextIs .setOpen tokens then .stuck .expectedOperator tokens
      else if nextIs .dataPoint tokens then .stuck .expectedOperator tokens
      else .done left tokens := by
  cases tokens with
  | nil =>
      rw [chain]
      rfl
  | cons operator rest =>
      cases kind : operator.kind
      case union =>
        rw [chain]
        simp only [kind, nextIs, expect, Reading.bind, decide_true, if_true]
        cases operand rest <;> rfl
      case setDifference =>
        rw [chain]
        simp [kind, nextIs, expect, Reading.bind]
        cases subtrahend operator rest <;> rfl
      all_goals
        rw [chain]
        simp [kind, nextIs]

theorem exists_expression_eq : ∃ cause : Option Token → Cause, ∀ tokens,
    expression tokens =
      if nextIs .setOpen tokens then
        (operand tokens).bind fun first rest => chain (.operand first) rest
      else if nextIs .dataPoint tokens then
        (operand tokens).bind fun first rest => chain (.operand first) rest
      else .stuck (cause tokens.head?) tokens := by
  refine ⟨fun found => found.elim .expectedExpression fun token =>
    if token.kind ∈ [Kind.union, .setDifference] then .noLeftOperand token.lexeme
    else .expectedExpression, fun tokens => ?_⟩
  cases tokens with
  | nil => rfl
  | cons token rest => cases kind : token.kind <;> simp [expression, kind, nextIs]

def newLines (tokens : List Token) : Reading Unit := .done () (skipNewLines tokens)

theorem equations_eq (tokens : List Token) :
    equations tokens =
      if nextIs .endOfInput tokens then .done [] tokens
      else (equation tokens).bind fun first rest =>
        if nextIs .endOfInput rest then .done [first] rest
        else (expect .newLine rest).bind fun _ rest =>
          (newLines rest).bind fun _ rest => (equations rest).map (first :: ·) := by
  rw [equations]
  split
  · rfl
  · split
    · rename_i cause rest read
      rw [read]
      rfl
    · rename_i first rest read
      simp only [read, Reading.bind]
      split
      · rfl
      · cases rest with
        | nil => rfl
        | cons newline rest =>
            rw [expect]
            by_cases ends : newline.kind = .newLine
            · simp only [if_pos ends]
              rfl
            · simp only [if_neg ends]

/-! ## Sets and operands -/

theorem moreDefinitions_sound {tokens rest : List Token} {names : List Name} :
    moreDefinitions tokens = .done names rest →
      ∃ used, tokens = used ++ rest ∧ Continued names used := by
  fun_induction moreDefinitions tokens generalizing names rest with
  | case1 =>
      intro read
      cases read
      exact ⟨[], rfl, .done⟩
  | case2 =>
      intro read
      cases read
  | case3 comma =>
      intro read
      cases read
      exact ⟨[], rfl, .done⟩
  | case4 comma name left separates kind ih =>
      intro read
      obtain ⟨found, later, rfl⟩ := map_eq_done.mp read
      obtain ⟨used, rfl, spelled⟩ := ih later
      refine ⟨comma :: name :: used, rfl, ?_⟩
      have step := Continued.comma (Name.ofToken name) separates spelled
      rwa [definition_ofToken kind] at step
  | case5 =>
      intro read
      cases read
  | case6 comma name left =>
      intro read
      cases read
      exact ⟨[], rfl, .done⟩

theorem moreDefinitions_of_no_comma {tokens : List Token} (stops : nextIs .comma tokens = false) :
    moreDefinitions tokens = .done [] tokens := by
  rw [moreDefinitions_eq, stops, if_neg Bool.false_ne_true]

theorem moreDefinitions_complete {names : List Name} {used rest : List Token}
    (spelled : Continued names used) (stops : nextIs .comma rest = false) :
    moreDefinitions (used ++ rest) = .done names rest := by
  induction spelled with
  | done => exact moreDefinitions_of_no_comma stops
  | comma name separates _ ih =>
      rw [List.cons_append, List.cons_append, moreDefinitions, if_pos separates,
        if_pos name.kind_definition, ih]
      rfl

/-- What is read between the braces makes a set with any braces around it. -/
theorem definitions_sound {tokens rest : List Token} {names : List Name}
    (read : definitions tokens = .done names rest) :
    ∃ used, tokens = used ++ rest ∧ ∀ {opening closing : Token}, opening.kind = .setOpen →
      closing.kind = .setClose → SetLiteral.SpelledBy names (opening :: (used ++ [closing])) := by
  rw [definitions] at read
  split at read
  · obtain ⟨first, after, defined, listed⟩ := bind_eq_done.mp read
    obtain ⟨names, more, rfl⟩ := map_eq_done.mp listed
    obtain ⟨name, taken, rfl⟩ := map_eq_done.mp defined
    obtain ⟨rfl, kind⟩ := expect_eq_done.mp taken
    obtain ⟨used, rfl, spelled⟩ := moreDefinitions_sound more
    refine ⟨name :: used, rfl, fun opens closes => ?_⟩
    have step := SetLiteral.SpelledBy.listed (Name.ofToken name) opens spelled closes
    rwa [definition_ofToken kind] at step
  · cases read
    exact ⟨[], rfl, fun opens closes => .empty opens closes⟩

theorem closeSet_eq_done {tokens rest : List Token} (read : closeSet tokens = .done () rest) :
    ∃ token, tokens = token :: rest ∧ token.kind = .setClose := by
  rw [closeSet_eq] at read
  split at read
  · obtain ⟨token, taken, _⟩ := map_eq_done.mp read
    exact ⟨token, expect_eq_done.mp taken⟩
  · cases read

theorem set_sound {tokens rest : List Token} {items : SetLiteral}
    (read : set tokens = .done items rest) :
    ∃ used, tokens = used ++ rest ∧ items.SpelledBy used := by
  obtain ⟨opening, inner, opened, read⟩ := bind_eq_done.mp read
  obtain ⟨found, left, listed, read⟩ := bind_eq_done.mp read
  obtain ⟨_, closed, rfl⟩ := map_eq_done.mp read
  obtain ⟨rfl, opens⟩ := expect_eq_done.mp opened
  obtain ⟨closing, rfl, closes⟩ := closeSet_eq_done closed
  obtain ⟨used, rfl, spelled⟩ := definitions_sound listed
  exact ⟨opening :: (used ++ [closing]), by simp, spelled opens closes⟩

theorem nextIs_of_set {items : SetLiteral} {used : List Token}
    (spelled : items.SpelledBy used) (rest : List Token) : nextIs .setOpen (used ++ rest) = true := by
  obtain ⟨opening, inner, rfl, opens⟩ := spelled.head
  exact nextIs_of_kind (inner ++ rest) opens

theorem set_complete {items : SetLiteral} {used : List Token} (spelled : items.SpelledBy used)
    (rest : List Token) : set (used ++ rest) = .done items rest := by
  cases spelled with
  | @empty opening closing opens closes =>
      have opened : expect .setOpen ([opening, closing] ++ rest) = .done opening (closing :: rest) :=
        expect_eq_done.mpr ⟨rfl, opens⟩
      have other : nextIs .definition (closing :: rest) = false := by simp [nextIs, closes]
      rw [set, opened, Reading.bind, definitions, other]
      simp [Reading.bind, Reading.map, closeSet, closes]
  | @listed first opening closing names tokens opens more closes =>
      have opened : expect .setOpen (opening :: first.definition :: (tokens ++ [closing]) ++ rest) =
          .done opening (first.definition :: (tokens ++ closing :: rest)) := by
        rw [expect_eq_done]
        exact ⟨by simp, opens⟩
      have named : nextIs .definition (first.definition :: (tokens ++ closing :: rest)) = true := rfl
      have defined : definition (first.definition :: (tokens ++ closing :: rest)) =
          .done first (tokens ++ closing :: rest) := rfl
      have stops : nextIs .comma (closing :: rest) = false := by simp [nextIs, closes]
      rw [set, opened, Reading.bind, definitions, if_pos named, defined, Reading.bind,
        moreDefinitions_complete more stops]
      simp [Reading.bind, Reading.map, closeSet, closes]

theorem operand_sound {tokens rest : List Token} {value : Operand}
    (read : operand tokens = .done value rest) :
    ∃ used, tokens = used ++ rest ∧ value.SpelledBy used := by
  cases tokens with
  | nil => cases read
  | cons token tail =>
      rw [operand] at read
      split at read
      · obtain ⟨items, inner, rfl⟩ := map_eq_done.mp read
        obtain ⟨used, taken, spelled⟩ := set_sound inner
        exact ⟨used, taken, .set spelled⟩
      · rename_i kind
        cases read
        refine ⟨[token], rfl, ?_⟩
        have single := Operand.SpelledBy.point (Name.ofToken token)
        rwa [dataPoint_ofToken kind] at single
      · cases read

theorem operand_complete {value : Operand} {used : List Token} (spelled : value.SpelledBy used)
    (rest : List Token) : operand (used ++ rest) = .done value rest := by
  cases spelled with
  | point name => rfl
  | set spelled =>
      rw [operand_eq, if_pos (nextIs_of_set spelled rest), set_complete spelled]
      rfl

theorem subtrahend_sound {operator : Token} {tokens rest : List Token} {items : SetLiteral}
    (read : subtrahend operator tokens = .done items rest) :
    ∃ used, tokens = used ++ rest ∧ items.SpelledBy used := by
  rw [subtrahend] at read
  split at read
  · exact set_sound read
  · cases read

theorem subtrahend_complete {items : SetLiteral} {used : List Token}
    (spelled : items.SpelledBy used) (operator : Token) (rest : List Token) :
    subtrahend operator (used ++ rest) = .done items rest := by
  rw [subtrahend, if_pos (nextIs_of_set spelled rest), set_complete spelled]

/-! ## Expressions -/

def EndsExpr (tokens : List Token) : Prop :=
  ∀ kind ∈ [Kind.setOpen, .dataPoint, .union, .setDifference], nextIs kind tokens = false

theorem chain_of_ends (left : Expr) {tokens : List Token} (ends : EndsExpr tokens) :
    chain left tokens = .done left tokens := by
  have noOperator := And.intro (ends .union (by decide)) (ends .setDifference (by decide))
  have noOperand := And.intro (ends .setOpen (by decide)) (ends .dataPoint (by decide))
  rw [chain_eq, noOperator.1, noOperator.2, noOperand.1, noOperand.2]
  rfl

theorem chain_union (left : Expr) {right : Operand} {operator : Token} {tokens after : List Token}
    (unites : operator.kind = .union) (read : operand tokens = .done right after) :
    chain left (operator :: tokens) = chain (.union left right) after := by
  have next := nextIs_of_kind tokens unites
  rw [chain_eq, if_pos next, expect_eq_done.mpr ⟨rfl, unites⟩, Reading.bind, read, Reading.bind]

theorem chain_difference (left : Expr) {right : SetLiteral} {operator : Token}
    {tokens after : List Token} (subtracts : operator.kind = .setDifference)
    (read : subtrahend operator tokens = .done right after) :
    chain left (operator :: tokens) = chain (.difference left right) after := by
  have next := nextIs_of_kind tokens subtracts
  have other : nextIs .union (operator :: tokens) = false := nextIs_other next nofun
  rw [chain_eq, other, if_neg Bool.false_ne_true, if_pos next,
    expect_eq_done.mpr ⟨rfl, subtracts⟩, Reading.bind, read, Reading.bind]

theorem chain_sound {left value : Expr} {tokens rest : List Token} :
    chain left tokens = .done value rest →
      ∃ used, tokens = used ++ rest ∧
        ∀ before, left.SpelledBy before → value.SpelledBy (before ++ used) := by
  -- The tokens before are left open: they grow with every operator that is read.
  fun_induction chain left tokens with
  | case1 left =>
      intro read
      cases read
      exact ⟨[], rfl, fun before spelled => by rwa [List.append_nil]⟩
  | case2 =>
      intro read
      cases read
  | case3 =>
      intro read
      cases read
  | case4 left operator tail unites right after taken ih =>
      intro read
      obtain ⟨used, rfl, whole⟩ := ih read
      obtain ⟨last, rfl, spelled⟩ := operand_sound taken
      refine ⟨operator :: (last ++ used), by simp, fun before first => ?_⟩
      have step := whole _ (.union first unites spelled)
      rwa [List.append_assoc, List.cons_append] at step
  | case5 =>
      intro read
      cases read
  | case6 left operator tail subtracts right after taken ih =>
      intro read
      obtain ⟨used, rfl, whole⟩ := ih read
      obtain ⟨last, rfl, spelled⟩ := subtrahend_sound taken
      refine ⟨operator :: (last ++ used), by simp, fun before first => ?_⟩
      have step := whole _ (.difference first subtracts spelled)
      rwa [List.append_assoc, List.cons_append] at step
  | case7 =>
      intro read
      cases read
  | case8 left =>
      intro read
      cases read
      exact ⟨[], rfl, fun before spelled => by rwa [List.append_nil]⟩

theorem expression_sound {tokens rest : List Token} {value : Expr}
    (read : expression tokens = .done value rest) :
    ∃ used, tokens = used ++ rest ∧ value.SpelledBy used := by
  have started : ∃ first after, operand tokens = .done first after ∧
      chain (.operand first) after = .done value rest := by
    obtain ⟨cause, cases⟩ := exists_expression_eq
    rw [cases] at read
    split at read
    · exact bind_eq_done.mp read
    · split at read
      · exact bind_eq_done.mp read
      · cases read
  obtain ⟨first, after, taken, going⟩ := started
  obtain ⟨begun, rfl, spelled⟩ := operand_sound taken
  obtain ⟨used, rfl, whole⟩ := chain_sound going
  exact ⟨begun ++ used, by simp, whole begun (.operand spelled)⟩

/-- To read the tokens of an expression is to go on from it. -/
theorem expression_complete {value : Expr} {used : List Token} (spelled : value.SpelledBy used) :
    ∀ rest, expression (used ++ rest) = chain value rest := by
  induction spelled with
  | @operand first tokens spelled =>
      intro rest
      have read := operand_complete spelled rest
      obtain ⟨token, tail, rfl, kind⟩ := spelled.head
      rw [List.cons_append] at read ⊢
      rcases kind with kind | kind
      · simp only [expression, kind, read, Reading.bind]
      · simp only [expression, kind, read, Reading.bind]
  | @union left right operator before after _ unites last ih =>
      intro rest
      rw [List.append_assoc, List.cons_append, ih,
        chain_union left unites (operand_complete last rest)]
  | @difference left right operator before after _ subtracts last ih =>
      intro rest
      rw [List.append_assoc, List.cons_append, ih,
        chain_difference left subtracts (subtrahend_complete last operator rest)]

/-! ## Equations -/

theorem equation_sound {tokens rest : List Token} {value : Equation}
    (read : equation tokens = .done value rest) :
    ∃ used, tokens = used ++ rest ∧ value.SpelledBy used := by
  obtain ⟨target, tail, named, later⟩ := bind_eq_done.mp read
  obtain ⟨sign, after, equated, value⟩ := bind_eq_done.mp later
  obtain ⟨right, expressed, rfl⟩ := map_eq_done.mp value
  obtain ⟨name, taken, rfl⟩ := map_eq_done.mp named
  obtain ⟨rfl, kind⟩ := expect_eq_done.mp taken
  obtain ⟨rfl, equates⟩ := expect_eq_done.mp equated
  obtain ⟨used, rfl, spelled⟩ := expression_sound expressed
  refine ⟨name :: sign :: used, rfl, ?_⟩
  have whole := Equation.SpelledBy.equals (Name.ofToken name) equates spelled
  rwa [dataPoint_ofToken kind] at whole

theorem equation_complete {value : Equation} {used rest : List Token}
    (spelled : value.SpelledBy used) (ends : EndsExpr rest) :
    equation (used ++ rest) = .done value rest := by
  cases spelled with
  | @equals target right sign tokens equates spelled =>
      have named : dataPoint (target.dataPoint :: sign :: (tokens ++ rest)) =
          .done target (sign :: (tokens ++ rest)) := rfl
      have equated : expect .equals (sign :: (tokens ++ rest)) = .done sign (tokens ++ rest) :=
        expect_eq_done.mpr ⟨rfl, equates⟩
      rw [List.cons_append, List.cons_append, equation, named, Reading.bind, equated, Reading.bind,
        expression_complete spelled, chain_of_ends right ends]
      rfl

end Reaching.Source.Parser
