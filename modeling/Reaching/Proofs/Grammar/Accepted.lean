import Mathlib.Data.List.TakeWhile
import Reaching.Proofs.Calls
import Reaching.Proofs.Grammar.Readers
import Reaching.Source.Text

/-! # The documents that are accepted

`parse` reads the tokens before the end of the input and no comments, `significant`, and gives
exactly the document that they spell.  What it reads from goes on with an end-of-input token, so
all the readers stop in front of one; that token is first in what a reader of equations leaves
(`equations_sound`), and first in what follows the significant tokens (`held_eq`).  Tokens that
spell a document hold no such token, hence both cut the list at the same place (`cut_unique`). -/
set_option autoImplicit false

namespace Reaching.Source

namespace Parser

/-! ## Between equations -/

theorem endsExpr_of_nextIs {kind : Kind} {tokens : List Token} (next : nextIs kind tokens = true)
    (ends : kind ∉ [Kind.setOpen, .dataPoint, .union, .setDifference]) : EndsExpr tokens := by
  intro other member
  refine nextIs_other next ?_
  rintro rfl
  exact ends member

theorem skipNewLines_append {gap rest : List Token} (blank : NewLines gap)
    (stops : nextIs .newLine rest = false) : skipNewLines (gap ++ rest) = rest := by
  induction gap with
  | nil =>
      cases rest with
      | nil => rfl
      | cons token tail =>
          rw [List.nil_append, skipNewLines, if_neg (of_decide_eq_false stops)]
  | cons token gap ih =>
      obtain ⟨ends, later⟩ := newLines_cons.mp blank
      rw [List.cons_append, skipNewLines, if_pos ends, ih later]

theorem skipNewLines_split (tokens : List Token) :
    ∃ gap, NewLines gap ∧ tokens = gap ++ skipNewLines tokens := by
  induction tokens with
  | nil => exact ⟨[], newLines_nil, rfl⟩
  | cons token rest ih =>
      rw [skipNewLines]
      split
      · rename_i kind
        obtain ⟨gap, blank, same⟩ := ih
        refine ⟨token :: gap, newLines_cons.mpr ⟨kind, blank⟩, ?_⟩
        rw [List.cons_append, ← same]
      · exact ⟨[], newLines_nil, rfl⟩

/-! ## Documents -/

theorem equations_ended {tokens : List Token} (ended : nextIs .endOfInput tokens = true) :
    equations tokens = .done [] tokens := by
  rw [equations, if_pos ended]

/-- An equation begins before the end of the input. -/
theorem going_of_equation {first : Equation} {tokens after : List Token}
    (read : equation tokens = .done first after) : nextIs .endOfInput tokens = false := by
  obtain ⟨used, rfl, spelled⟩ := equation_sound read
  obtain ⟨tail, rfl⟩ := spelled.head
  rfl

theorem equations_of_equation {first : Equation} {tokens after : List Token}
    (read : equation tokens = .done first after) (ended : nextIs .endOfInput after = true) :
    equations tokens = .done [first] after := by
  rw [equations_eq, going_of_equation read, if_neg Bool.false_ne_true, read, Reading.bind,
    if_pos ended]

theorem equations_of_line {first : Equation} {newline : Token} {tokens left : List Token}
    (read : equation tokens = .done first (newline :: left)) (ends : newline.kind = .newLine) :
    equations tokens = (equations (skipNewLines left)).map (first :: ·) := by
  have going : nextIs .endOfInput (newline :: left) = false :=
    nextIs_other (nextIs_of_kind left ends) nofun
  rw [equations_eq, going_of_equation read, if_neg Bool.false_ne_true, read, Reading.bind, going,
    if_neg Bool.false_ne_true, expect_eq_done.mpr ⟨rfl, ends⟩]
  rfl

theorem equations_complete {document : Document} {body after rest : List Token}
    (lines : Lines document body) (blank : NewLines after)
    (ended : nextIs .endOfInput rest = true) :
    equations (body ++ (after ++ rest)) = .done document rest := by
  induction lines with
  | @last first tokens spelled =>
      cases after with
      | nil =>
          have read := equation_complete spelled (endsExpr_of_nextIs ended (by decide))
          exact equations_of_equation read ended
      | cons newline gap =>
          obtain ⟨ends, between⟩ := newLines_cons.mp blank
          have read := equation_complete spelled
            (endsExpr_of_nextIs (nextIs_of_kind (gap ++ rest) ends) (by decide))
          rw [List.cons_append, equations_of_line read ends,
            skipNewLines_append between (nextIs_other ended nofun), equations_ended ended]
          rfl
  | @more first document newline tokens gap later spelled ends between lines ih =>
      have read := equation_complete spelled
        (endsExpr_of_nextIs (nextIs_of_kind (gap ++ (later ++ (after ++ rest))) ends) (by decide))
      have stops : nextIs .newLine (later ++ (after ++ rest)) = false := by
        obtain ⟨target, tail, rfl⟩ := lines.head
        rfl
      have joined : (tokens ++ newline :: (gap ++ later)) ++ (after ++ rest) =
          tokens ++ newline :: (gap ++ (later ++ (after ++ rest))) := by simp
      rw [joined, equations_of_line read ends, skipNewLines_append between stops, ih]
      rfl

theorem equations_sound {tokens rest : List Token} {document : Document} :
    equations tokens = .done document rest →
      nextIs .endOfInput rest = true ∧
        (document = [] ∧ tokens = rest ∨
          ∃ body after, Lines document body ∧ NewLines after ∧ tokens = body ++ (after ++ rest)) := by
  fun_induction equations tokens generalizing document rest with
  | case1 tokens ended =>
      intro read
      cases read
      exact ⟨ended, Or.inl ⟨rfl, rfl⟩⟩
  | case2 =>
      intro read
      cases read
  | case3 tokens _ first after taken ended =>
      intro read
      cases read
      obtain ⟨used, rfl, spelled⟩ := equation_sound taken
      exact ⟨ended, Or.inr ⟨used, [], .last spelled, newLines_nil, rfl⟩⟩
  | case4 =>
      intro read
      cases read
  | case5 tokens _ first newline left _ ends taken _ ih =>
      intro read
      obtain ⟨others, later, rfl⟩ := map_eq_done.mp read
      obtain ⟨used, rfl, spelled⟩ := equation_sound taken
      obtain ⟨gap, blank, skipped⟩ := skipNewLines_split left
      obtain ⟨closed, found⟩ := ih later
      -- Newlines before another equation stand between the two, all others after the last.
      refine ⟨closed, Or.inr ?_⟩
      rcases found with ⟨rfl, same⟩ | ⟨body, after, lines, trailing, same⟩
      · refine ⟨used, newline :: gap, .last spelled, newLines_cons.mpr ⟨ends, blank⟩, ?_⟩
        rw [skipped, same, List.cons_append]
      · refine ⟨used ++ newline :: (gap ++ body), after, ?_, trailing, ?_⟩
        · exact .more spelled ends blank lines
        · rw [skipped, same]
          simp
  | case6 =>
      intro read
      cases read

theorem document_complete {written : Document} {used rest : List Token}
    (spelled : written.SpelledBy used) (ended : nextIs .endOfInput rest = true) :
    document (used ++ rest) = .done written rest := by
  obtain ⟨before, body, after, blank, lines, trailing, rfl⟩ := spelled
  have stops : nextIs .newLine (body ++ (after ++ rest)) = false := by
    obtain ⟨target, tail, rfl⟩ := lines.head
    rfl
  rw [List.append_assoc, List.append_assoc, document, skipNewLines_append blank stops,
    equations_complete lines trailing ended]
  cases lines <;> rfl

theorem document_sound {tokens rest : List Token} {written : Document}
    (read : document tokens = .done written rest) :
    nextIs .endOfInput rest = true ∧ ∃ used, tokens = used ++ rest ∧ written.SpelledBy used := by
  obtain ⟨found, left, listed, chosen⟩ := bind_eq_done.mp read
  have same : found ≠ [] ∧ found = written ∧ left = rest := by
    cases found with
    | nil => cases chosen
    | cons first more =>
        cases chosen
        exact ⟨List.cons_ne_nil first more, rfl, rfl⟩
  obtain ⟨some, rfl, rfl⟩ := same
  obtain ⟨gap, blank, skipped⟩ := skipNewLines_split tokens
  obtain ⟨ended, ⟨none, _⟩ | ⟨body, after, lines, trailing, split⟩⟩ := equations_sound listed
  · exact absurd none some
  · refine ⟨ended, gap ++ (body ++ after), ?_, gap, body, after, blank, lines, trailing, rfl⟩
    rw [skipped, split]
    simp

end Parser

/-! ## The tokens that count -/

/-- The tokens that are no comments, up to the first that ends the input. -/
def significant (tokens : List Token) : List Token :=
  (tokens.filter (·.kind ≠ .comment)).takeWhile (·.kind ≠ .endOfInput)

theorem goesOn_takeWhile (tokens : List Token) :
    GoesOn (tokens.takeWhile (·.kind ≠ .endOfInput)) := by
  intro token member
  have passes := List.mem_takeWhile_imp member
  exact of_decide_eq_true passes

theorem takeWhile_goesOn {used rest : List Token} (goes : GoesOn used)
    (ended : Parser.nextIs .endOfInput rest = true) :
    (used ++ rest).takeWhile (·.kind ≠ .endOfInput) = used := by
  obtain ⟨closing, tail, rfl, closes⟩ := Parser.exists_of_nextIs ended
  have all : ∀ token ∈ used, decide (token.kind ≠ .endOfInput) = true :=
    fun token member => decide_eq_true (goes token member)
  rw [List.takeWhile_append_of_pos all, List.takeWhile_cons_of_neg, List.append_nil]
  simp [closes]

/-- A list of tokens has only one part before the end of the input. -/
theorem cut_unique {used other rest left : List Token} (same : used ++ rest = other ++ left)
    (goes : GoesOn used) (also : GoesOn other) (ended : Parser.nextIs .endOfInput rest = true)
    (closed : Parser.nextIs .endOfInput left = true) : used = other := by
  rw [← takeWhile_goesOn goes ended, same, takeWhile_goesOn also closed]

theorem exists_cut {tokens : List Token} (some : ∃ token ∈ tokens, token.kind = .endOfInput) :
    ∃ rest, tokens = tokens.takeWhile (·.kind ≠ .endOfInput) ++ rest ∧
      Parser.nextIs .endOfInput rest = true := by
  refine ⟨tokens.dropWhile (·.kind ≠ .endOfInput), List.takeWhile_append_dropWhile.symm, ?_⟩
  induction tokens with
  | nil =>
      obtain ⟨token, member, _⟩ := some
      exact absurd member List.not_mem_nil
  | cons token tokens ih =>
      rw [List.dropWhile_cons]
      by_cases closes : token.kind = .endOfInput
      · rw [if_neg (by simp [closes])]
        exact Parser.nextIs_of_kind tokens closes
      · rw [if_pos (by simp [closes])]
        obtain ⟨found, member, kind⟩ := some
        rcases List.mem_cons.mp member with rfl | later
        · exact absurd kind closes
        · exact ih ⟨found, later, kind⟩

theorem takeWhile_closed (tokens : List Token) {closing : Token}
    (closes : closing.kind = .endOfInput) :
    (tokens ++ [closing]).takeWhile (·.kind ≠ .endOfInput) =
      tokens.takeWhile (·.kind ≠ .endOfInput) := by
  rw [List.takeWhile_append, List.takeWhile_cons_of_neg (by simp [closes]), List.append_nil]
  split
  · rename_i whole
    exact (List.takeWhile_prefix _).eq_of_length whole |>.symm
  · rfl

theorem significant_closed (tokens : List Token) {closing : Token}
    (closes : closing.kind = .endOfInput) :
    significant (tokens ++ [closing]) = significant tokens := by
  have kept : [closing].filter (·.kind ≠ .comment) = [closing] := by simp [closes]
  rw [significant, List.filter_append, kept, takeWhile_closed _ closes, significant]

theorem plain_significant (tokens : List Token) : Plain (significant tokens) := by
  intro token member
  have noEnd := goesOn_takeWhile _ token member
  have kept := List.mem_filter.mp ((List.takeWhile_subset _) member)
  have noComment := of_decide_eq_true kept.2
  simp [noEnd, noComment]

/-- The end of the input is not among the first tokens, so what comes after them counts as well. -/
theorem significant_append_of_goesOn {before : List Token} (goes : GoesOn before)
    (after : List Token) : significant (before ++ after) = significant before ++ significant after := by
  have noEnd : ∀ token ∈ before.filter (·.kind ≠ .comment),
      decide (token.kind ≠ .endOfInput) = true :=
    fun token member => decide_eq_true (goes token (List.mem_filter.mp member).1)
  rw [significant, List.filter_append, List.takeWhile_append_of_pos noEnd, significant,
    List.takeWhile_eq_self_iff.mpr noEnd, significant]

theorem significant_of_plain {tokens : List Token} (plain : Plain tokens) :
    significant tokens = tokens := by
  have noComment : ∀ token ∈ tokens, decide (token.kind ≠ .comment) = true := by
    intro token member
    have other := plain token member
    simp only [List.mem_cons, not_or] at other
    exact decide_eq_true other.1
  have noEnd : ∀ token ∈ tokens, decide (token.kind ≠ .endOfInput) = true :=
    fun token member => decide_eq_true (plain.goesOn token member)
  rw [significant, List.filter_eq_self.mpr noComment, List.takeWhile_eq_self_iff.mpr noEnd]

theorem significant_append {before : List Token} (plain : Plain before) (after : List Token) :
    significant (before ++ after) = before ++ significant after := by
  rw [significant_append_of_goesOn plain.goesOn, significant_of_plain plain]

/-- An end-of-input token is added unless one is last already. -/
theorem held_cases (tokens : List Token) :
    (held tokens = tokens.filter (·.kind ≠ .comment) ∧
        ∃ token ∈ tokens.filter (·.kind ≠ .comment), token.kind = .endOfInput) ∨
      ∃ closing, closing.kind = .endOfInput ∧
        held tokens = tokens.filter (·.kind ≠ .comment) ++ [closing] := by
  unfold held
  generalize tokens.filter (·.kind ≠ .comment) = kept
  cases last : kept.getLast? with
  | none =>
      rw [List.getLast?_eq_none_iff.mp last]
      exact Or.inr ⟨_, rfl, rfl⟩
  | some token =>
      by_cases closes : token.kind = .endOfInput
      · refine Or.inl ⟨?_, token, List.mem_of_getLast? last, closes⟩
        simp only [last, if_pos closes]
      · refine Or.inr ⟨⟨.endOfInput, "", ⟨token.place.line,
          token.place.column + token.lexeme.length⟩⟩, rfl, ?_⟩
        simp only [last, if_neg closes]

/-- What is read begins with the significant tokens, and the end of the input follows them. -/
theorem held_eq (tokens : List Token) :
    ∃ rest, held tokens = significant tokens ++ rest ∧
      Parser.nextIs .endOfInput rest = true := by
  rcases held_cases tokens with ⟨same, some⟩ | ⟨closing, closes, same⟩
  · rw [same]
    exact exists_cut some
  · have some : ∃ token ∈ held tokens, token.kind = .endOfInput := by
      refine ⟨closing, ?_, closes⟩
      rw [same]
      exact List.mem_append_right _ List.mem_cons_self
    obtain ⟨rest, whole, ended⟩ := exists_cut some
    refine ⟨rest, ?_, ended⟩
    rw [same, takeWhile_closed _ closes, ← same] at whole
    exact whole

/-! ## Parsing -/

theorem parse_eq_ok (tokens : List Token) (document : Document) :
    parse tokens = .ok document ↔ document.SpelledBy (significant tokens) := by
  have begun : parse tokens = (Parser.document (held tokens)).toExcept := rfl
  obtain ⟨left, whole, closed⟩ := held_eq tokens
  rw [begun, whole]
  constructor
  · intro accepted
    cases read : Parser.document (significant tokens ++ left) with
    | stuck cause rest =>
        rw [read] at accepted
        cases accepted
    | done found rest =>
        rw [read] at accepted
        cases accepted
        obtain ⟨ended, used, split, spelled⟩ := Parser.document_sound read
        rw [cut_unique split (goesOn_takeWhile _) spelled.plain.goesOn closed ended]
        exact spelled
  · intro spelled
    rw [Parser.document_complete spelled closed]
    rfl

theorem ofText?_eq_ok {dialect : Dialect} {text : String} {document : Document} :
    Document.ofText? dialect text = .ok document ↔
      ∃ found, lex dialect text = .ok found ∧ document.SpelledBy (significant found) := by
  rw [Document.ofText?, Calls.bind_eq_ok]
  simp only [Calls.mapError_eq_ok, parse_eq_ok]

/-- The documents that are accepted are those that the significant tokens spell, at most one for a
token list; all other lists are refused. -/
theorem parse_iff_spelledBy (tokens : List Token) :
    (∀ document, parse tokens = .ok document ↔ document.SpelledBy (significant tokens)) ∧
      ((∃ error, parse tokens = .error error) ↔
        ¬ ∃ document : Document, document.SpelledBy (significant tokens)) ∧
      (∀ document : Document, document.SpelledBy (significant tokens) →
        document ≠ [] ∧ document.leaves = (significant tokens).filter Token.isName) ∧
      (∀ one other : Document, one.SpelledBy (significant tokens) →
        other.SpelledBy (significant tokens) → one = other) ∧
      ∀ closing : Token, closing.kind = .endOfInput →
        (parse (tokens ++ [closing])).toOption = (parse tokens).toOption := by
  refine ⟨parse_eq_ok tokens, ?refused, ?leaves, ?unique, ?closed⟩
  case refused =>
    simp only [← parse_eq_ok]
    cases parse tokens with
    | error error => simp
    | ok document => simp
  case leaves =>
    intro document spelled
    exact ⟨spelled.ne_nil, spelled.leaves.symm⟩
  case unique =>
    intro one other first second
    rw [← parse_eq_ok] at first second
    rw [first] at second
    exact Except.ok.inj second
  case closed =>
    intro closing closes
    have same : ∀ document, parse (tokens ++ [closing]) = .ok document ↔
        parse tokens = .ok document := by
      intro document
      rw [parse_eq_ok, parse_eq_ok, significant_closed tokens closes]
    cases first : parse tokens with
    | ok document => rw [(same document).mpr first]
    | error cause =>
        cases second : parse (tokens ++ [closing]) with
        | ok document =>
            rw [(same document).mp second] at first
            cases first
        | error other => rfl

def commented : List Token :=
  [⟨.comment, "#", ⟨1, 1⟩⟩, ⟨.newLine, "\n", ⟨1, 2⟩⟩, ⟨.newLine, "\n", ⟨2, 1⟩⟩,
    ⟨.dataPoint, "L1", ⟨3, 1⟩⟩, ⟨.equals, "=", ⟨3, 4⟩⟩, ⟨.setOpen, "\x7b", ⟨3, 6⟩⟩,
    ⟨.definition, "d1", ⟨3, 7⟩⟩, ⟨.comma, ",", ⟨3, 9⟩⟩, ⟨.definition, "d2", ⟨3, 11⟩⟩,
    ⟨.setClose, "\x7d", ⟨3, 13⟩⟩, ⟨.union, "U", ⟨3, 15⟩⟩, ⟨.dataPoint, "L2", ⟨3, 17⟩⟩,
    ⟨.setDifference, "\\", ⟨3, 20⟩⟩, ⟨.setOpen, "\x7b", ⟨3, 22⟩⟩, ⟨.setClose, "\x7d", ⟨3, 23⟩⟩,
    ⟨.newLine, ";", ⟨3, 24⟩⟩, ⟨.dataPoint, "L2", ⟨3, 26⟩⟩, ⟨.equals, "=", ⟨3, 29⟩⟩,
    ⟨.dataPoint, "L1", ⟨3, 31⟩⟩, ⟨.comment, "# end", ⟨3, 34⟩⟩]

def uncommented : Document :=
  [⟨⟨"L1", ⟨3, 1⟩⟩, .difference (.union (.operand (.set [⟨"d1", ⟨3, 7⟩⟩, ⟨"d2", ⟨3, 11⟩⟩]))
      (.point ⟨"L2", ⟨3, 17⟩⟩)) []⟩,
    ⟨⟨"L2", ⟨3, 26⟩⟩, .operand (.point ⟨"L1", ⟨3, 31⟩⟩)⟩]

theorem parse_iff_spelledBy_commented :
    parse commented = .ok uncommented ∧ uncommented.SpelledBy (significant commented) ∧
      uncommented.leaves = (significant commented).filter Token.isName ∧
      (parse (commented ++ [⟨.endOfInput, "", ⟨3, 39⟩⟩])).toOption = some uncommented := by
  obtain ⟨accepted, _, leaves, _, closed⟩ := parse_iff_spelledBy commented
  have parsed : parse commented = .ok uncommented := by decide +kernel
  have spelled := (accepted uncommented).mp parsed
  refine ⟨parsed, spelled, (leaves uncommented spelled).2, ?_⟩
  rw [closed _ rfl, parsed]
  rfl

end Reaching.Source
