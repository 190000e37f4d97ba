import Reaching.Proofs.Lexing.Dialects
import Reaching.Proofs.Lexing.Exact

/-! # Texts joined by a newline

No token crosses a newline: a name ends before it, a comment goes up to it, and it is a token of its
own.  So the tokens of two texts with a newline between them are the tokens of the first, the newline
where the first text ends, and the tokens of the second that many lines further down
(`Token.lowered`).  Columns stay, because the second text begins a line.

Main fact: `lex_joined`. -/
set_option autoImplicit false

namespace Reaching

namespace Text.Position

def lowered (place : Position) (lines : Nat) : Position := ⟨place.line + lines, place.column⟩

theorem next_lowered (place : Position) (lines : Nat) (c : Char) :
    (place.lowered lines).next c = (place.next c).lowered lines := by
  rw [next, next]
  split
  · rw [lowered, lowered, Nat.add_right_comm]
  · rfl

theorem after_lowered (place : Position) (lines : Nat) (chars : List Char) :
    (place.lowered lines).after chars = (place.after chars).lowered lines := by
  induction chars generalizing place with
  | nil => rfl
  | cons c chars ih => rw [after_cons, after_cons, next_lowered, ih]

/-- The place where a text begins that comes after another one and a newline. -/
theorem next_newline_after_start (chars : List Char) :
    (start.after chars).next '\n' = start.lowered (1 + chars.count '\n') := by
  have counted : start.after chars = ofPrefix chars := after_ofPrefix [] chars
  rw [counted, ofPrefix, next, if_pos rfl, lowered, Nat.add_comm _ 1]
  rfl

end Text.Position

namespace Source

def Token.lowered (lines : Nat) (token : Token) : Token :=
  { token with place := token.place.lowered lines }

variable {dialect : Dialect} {kind : Kind} {chars rest : List Char} {tokens : List Token}
  {place : Text.Position}

theorem Cut.lowered (cut : Cut dialect place chars tokens) (lines : Nat) :
    Cut dialect (place.lowered lines) chars (tokens.map (Token.lowered lines)) := by
  induction cut with
  | ended place => exact .ended _
  | blank blank _ ih =>
      rw [← Text.Position.next_lowered] at ih
      exact .blank blank ih
  | token lexeme _ ih =>
      rw [← Text.Position.after_lowered] at ih
      exact .token lexeme ih

theorem Lexeme.before_newline (lexeme : Lexeme dialect kind chars rest) (later : List Char) :
    Lexeme dialect kind chars (rest ++ '\n' :: later) := by
  have stops : ∀ test : Char → Bool, test '\n' = false → Stops test ('\n' :: later) := by
    rintro test fails _ ⟨⟩
    exact fails
  cases lexeme with
  | comment oneLine ends => exact .comment oneLine (stops_append ends (stops _ rfl))
  | name starts named number ends =>
      exact .name starts named number (stops_append ends (stops Char.isDigit rfl))
  | single starts other visible known => exact .single starts other visible known

theorem Cut.join {others : List Char} {later : List Token} (first : Cut dialect place chars tokens)
    (second : Cut dialect ((place.after chars).next '\n') others later) :
    Cut dialect place (chars ++ '\n' :: others)
      (tokens ++ ⟨.newLine, "\n", place.after chars⟩ :: later) := by
  induction first with
  | ended place =>
      have starts : dialect.kindOf '\n' = .newLine := rfl
      have newline : Lexeme dialect .newLine ['\n'] others :=
        .single starts (by decide) rfl fun _ => nofun
      exact .token newline second
  | blank blank _ ih => exact .blank blank (ih second)
  | @token place kind chars rest tokens lexeme _ ih =>
      rw [Text.Position.after_append] at second ⊢
      rw [List.append_assoc, List.cons_append]
      exact .token (lexeme.before_newline others) (ih second)

theorem Dialect.kindOf_ne_endOfInput (dialect : Dialect) (c : Char) :
    dialect.kindOf c ≠ .endOfInput := by
  unfold kindOf
  cases dialect.semicolons <;> split <;> simp

/-- No token of a text is one that ends the input. -/
theorem Cut.goesOn (cut : Cut dialect place chars tokens) :
    ∀ token ∈ tokens, token.kind ≠ .endOfInput := by
  induction cut with
  | ended place => simp
  | blank _ _ ih => exact ih
  | token lexeme _ ih =>
      obtain ⟨c, tail, rfl, starts, _⟩ := lexeme.head
      exact List.forall_mem_cons.mpr ⟨starts ▸ dialect.kindOf_ne_endOfInput c, ih⟩

theorem exists_cut_of_lex {text : String} {found : List Token}
    (lexed : lex dialect text = .ok found) :
    ∃ tokens, Cut dialect .start text.toList tokens ∧
      found = tokens ++ [⟨.endOfInput, "", Text.Position.start.after text.toList⟩] := by
  rcases cut_or_refused dialect text with ⟨tokens, cut⟩ | ⟨semicolons, _, _, rfl, cut, first⟩
  · exact ⟨tokens, cut, Except.ok.inj (lexed.symm.trans (lex_of_cut cut))⟩
  · obtain ⟨c, _, refused⟩ := lex_strict_of_unknown cut first
    rw [refused] at lexed
    cases lexed

def joined (one other : String) : String := one ++ "\n" ++ other

theorem toList_joined (one other : String) :
    (joined one other).toList = one.toList ++ '\n' :: other.toList := by
  simp [joined, String.toList_append]

theorem lex_joined {one other : String} {first second : List Token}
    (lexed : lex dialect one = .ok first) (also : lex dialect other = .ok second) :
    ∃ tokens place, first = tokens ++ [⟨.endOfInput, "", place⟩] ∧
      (∀ token ∈ tokens, token.kind ≠ .endOfInput) ∧
        lex dialect (joined one other) = .ok (tokens ++ ⟨.newLine, "\n", place⟩ ::
          second.map (Token.lowered (1 + one.toList.count '\n'))) := by
  obtain ⟨tokens, cut, rfl⟩ := exists_cut_of_lex lexed
  obtain ⟨later, recut, rfl⟩ := exists_cut_of_lex also
  refine ⟨tokens, _, rfl, cut.goesOn, ?_⟩
  have lower := recut.lowered (1 + one.toList.count '\n')
  rw [← Text.Position.next_newline_after_start] at lower
  have whole := cut.join lower
  rw [← toList_joined] at whole
  rw [lex_of_cut whole, toList_joined, Text.Position.after_append, Text.Position.after_cons,
    Text.Position.next_newline_after_start, Text.Position.after_lowered, List.map_append,
    List.append_assoc, List.cons_append]
  rfl

end Source

end Reaching
