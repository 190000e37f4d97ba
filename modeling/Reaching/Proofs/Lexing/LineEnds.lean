import Reaching.Proofs.Lexing.Dialects

/-! # Line ends of two characters

`withReturns` writes a carriage return before every newline of a text.  A return is a blank, so it
is passed over wherever tokens are looked for, and the newline after it stands one column further on.
A comment however goes up to the newline, and what stands before the newline is part of it: only the
last comment of a text, if no line ends after it, stays as it was.

`returned` makes both changes to the tokens of a text.  It keeps all kinds and lines, and all lexemes
except those of comments that a line end follows (`SameButReturn`).  A character that starts no token
has no newline before it on its line, so a strict reader reports the same one at the same place.

Main fact: `returns_stay_in_comments`. -/
set_option autoImplicit false

namespace Reaching.Source

def returnBefore (c : Char) : List Char := if c = '\n' then ['\r', '\n'] else [c]

def withReturns (text : String) : String := String.ofList (text.toList.flatMap returnBefore)

theorem toList_withReturns (text : String) :
    (withReturns text).toList = text.toList.flatMap returnBefore := String.toList_ofList

/-- The token of a text that has become `withReturns`, if `next` is the one after it. -/
def Token.returned (token : Token) (next : Option Token) : Token :=
  match token.kind with
  | .newLine => if token.lexeme = "\n" then { token with place := token.place.next '\r' } else token
  | .comment =>
    if next.any (·.kind = .newLine) then { token with lexeme := token.lexeme ++ "\r" } else token
  | _ => token

def returned : List Token → List Token
  | [] => []
  | token :: rest => token.returned rest.head? :: returned rest

/-- Two tokens that are alike but for a return at the end of a comment, and for their columns if they
end a line. -/
structure SameButReturn (token other : Token) : Prop where
  kind : other.kind = token.kind
  line : other.place.line = token.place.line
  column : token.lexeme ≠ "\n" → other.place.column = token.place.column
  lexeme : token.kind ≠ .comment → other.lexeme = token.lexeme
  comment : other.lexeme = token.lexeme ∨ other.lexeme = token.lexeme ++ "\r"

theorem Token.sameButReturn (token : Token) (next : Option Token) :
    SameButReturn token (token.returned next) := by
  have same : SameButReturn token token := ⟨rfl, rfl, fun _ => rfl, fun _ => rfl, Or.inl rfl⟩
  unfold returned
  split
  · split
    · rename_i newline
      exact ⟨rfl, rfl, fun other => absurd newline other, fun _ => rfl, Or.inl rfl⟩
    · exact same
  · rename_i comment
    split
    · exact ⟨rfl, rfl, fun _ => rfl, fun other => absurd comment other, Or.inr rfl⟩
    · exact same
  · exact same

theorem forall₂_returned (tokens : List Token) :
    List.Forall₂ SameButReturn tokens (returned tokens) := by
  induction tokens with
  | nil => exact .nil
  | cons token rest ih => exact .cons (token.sameButReturn rest.head?) ih

/-! ## Cutting a text with returns -/

variable {dialect : Dialect} {kind : Kind} {chars rest : List Char} {tokens : List Token}
  {place : Text.Position}

theorem flatMap_returnBefore_of_notMem (oneLine : '\n' ∉ chars) :
    chars.flatMap returnBefore = chars := by
  induction chars with
  | nil => rfl
  | cons c chars ih =>
      rw [List.mem_cons, not_or] at oneLine
      rw [List.flatMap_cons, returnBefore, if_neg (Ne.symm oneLine.1), ih oneLine.2,
        List.singleton_append]

theorem Stops.withReturns {test : Char → Bool} (stops : Stops test rest)
    (returnStops : test '\r' = false) : Stops test (rest.flatMap returnBefore) := by
  cases rest with
  | nil => exact stops
  | cons c rest =>
      rw [List.flatMap_cons, returnBefore]
      split
      · rintro _ ⟨⟩
        exact returnStops
      · rintro _ ⟨⟩
        exact stops c rfl

/-- What cannot continue a comment is the end of its line or of the text. -/
theorem eq_newline_cons_of_stops (stops : Stops (· ≠ '\n') rest) :
    rest = [] ∨ ∃ later, rest = '\n' :: later := by
  cases rest with
  | nil => exact Or.inl rfl
  | cons c later =>
      have newline : c = '\n' := by simpa using stops c rfl
      exact Or.inr ⟨later, by rw [newline]⟩

theorem Cut.eq_nil (cut : Cut dialect place [] tokens) : tokens = [] := by
  generalize none : ([] : List Char) = chars at cut
  cases cut with
  | ended place => rfl
  | blank blank later => cases none
  | token lexeme later =>
      obtain ⟨c, tail, rfl, _⟩ := lexeme.head
      cases none

theorem Cut.of_blank {c : Char} (blank : isBlank c = true)
    (cut : Cut dialect place (c :: rest) tokens) : Cut dialect (place.next c) rest tokens := by
  generalize same : c :: rest = chars at cut
  cases cut with
  | ended place => cases same
  | blank first later =>
      cases same
      exact later
  | token lexeme later =>
      obtain ⟨first, tail, rfl, starts, visible, known⟩ := lexeme.head
      cases same
      exact absurd blank (by simp [visible])

/-- A lexeme that starts with a newline is that newline. -/
theorem Lexeme.of_newline {tail : List Char} (lexeme : Lexeme dialect kind ('\n' :: tail) rest) :
    kind = .newLine ∧ tail = [] := by
  cases lexeme with
  | name starts named _ _ =>
      subst starts
      simp [Dialect.kindOf] at named
  | single starts _ _ _ => exact ⟨starts.symm, rfl⟩

theorem Cut.of_newline (cut : Cut dialect place ('\n' :: rest) tokens) :
    ∃ later, tokens = ⟨.newLine, "\n", place⟩ :: later := by
  generalize same : '\n' :: rest = chars at cut
  cases cut with
  | ended place => cases same
  | blank first later =>
      cases same
      exact absurd first (by decide)
  | @token _ _ chars _ later lexeme _ =>
      obtain ⟨first, tail, rfl, _⟩ := lexeme.head
      cases same
      obtain ⟨rfl, rfl⟩ := lexeme.of_newline
      exact ⟨later, rfl⟩

theorem Token.returned_of_oneLine (next : Option Token) (oneLine : '\n' ∉ chars)
    (other : kind ≠ .comment) : (Token.mk kind (String.ofList chars) place).returned next =
      ⟨kind, String.ofList chars, place⟩ := by
  unfold returned
  split
  · refine if_neg fun newline : String.ofList chars = String.ofList ['\n'] => oneLine ?_
    rw [String.ofList_inj.mp newline]
    exact List.mem_singleton_self _
  · rename_i comment
    exact absurd comment other
  · rfl

/-! ### One lexeme, if the rest is cut already -/

/-- A lexeme without a newline stays as it is, unless it is a comment. -/
theorem Cut.token_returned
    (later : Cut dialect (place.after chars) (rest.flatMap returnBefore) (returned tokens))
    (oneLine : '\n' ∉ chars)
    (lexeme : Lexeme dialect kind chars (rest.flatMap returnBefore))
    (same : (Token.mk kind (String.ofList chars) place).returned tokens.head? =
      ⟨kind, String.ofList chars, place⟩) :
    Cut dialect place ((chars ++ rest).flatMap returnBefore)
      (returned (⟨kind, String.ofList chars, place⟩ :: tokens)) := by
  rw [List.flatMap_append, flatMap_returnBefore_of_notMem oneLine, returned, same]
  exact .token lexeme later

/-- A comment takes the return before the newline that ends it. -/
theorem Cut.comment_returned {body : List Char} {others : List Token} (oneLine : '\n' ∉ body)
    (newline : tokens = ⟨.newLine, "\n", place.after ('#' :: body)⟩ :: others)
    (later : Cut dialect (place.after ('#' :: body)) (('\n' :: rest).flatMap returnBefore)
      (returned tokens)) :
    Cut dialect place (('#' :: body ++ '\n' :: rest).flatMap returnBefore)
      (returned (⟨.comment, String.ofList ('#' :: body), place⟩ :: tokens)) := by
  have longer : ∀ c ∈ body ++ ['\r'], c ≠ '\n' := by
    intro c member
    rcases List.mem_append.mp member with inside | last
    · exact fun same => oneLine (same ▸ inside)
    · rw [List.mem_singleton.mp last]
      decide
  have ends : Stops (· ≠ '\n') ('\n' :: rest.flatMap returnBefore) := by
    rintro _ ⟨⟩
    rfl
  have along : Text.Position.after place ('#' :: (body ++ ['\r'])) =
      (place.after ('#' :: body)).next '\r' := by
    rw [← List.cons_append, Text.Position.after_append]
    rfl
  have found := Cut.token (.comment longer ends) (along ▸ later.of_blank rfl)
  have text : String.ofList ('#' :: (body ++ ['\r'])) = String.ofList ('#' :: body) ++ "\r" := by
    rw [← List.cons_append, String.ofList_append]
  have chars : ('#' :: body ++ '\n' :: rest).flatMap returnBefore =
      '#' :: (body ++ ['\r']) ++ '\n' :: rest.flatMap returnBefore := by
    have whole : '\n' ∉ '#' :: body := by simpa using oneLine
    rw [List.flatMap_append, flatMap_returnBefore_of_notMem whole]
    simp [returnBefore]
  rw [chars, newline]
  rw [text, newline] at found
  exact found

/-- A newline comes one column later. -/
theorem Cut.newline_returned
    (later : Cut dialect (place.next '\n') (rest.flatMap returnBefore) (returned tokens)) :
    Cut dialect place (('\n' :: rest).flatMap returnBefore)
      (returned (⟨.newLine, "\n", place⟩ :: tokens)) := by
  have starts : dialect.kindOf '\n' = .newLine := rfl
  have single : Lexeme dialect .newLine ['\n'] (rest.flatMap returnBefore) :=
    .single starts (by decide) rfl fun _ => nofun
  exact .blank rfl (.token single later)

theorem Cut.withReturns (cut : Cut dialect place chars tokens) :
    Cut dialect place (chars.flatMap returnBefore) (returned tokens) := by
  induction cut with
  | ended place => exact .ended place
  | @blank place c rest tokens blank _ ih =>
      have other : c ≠ '\n' := by
        rintro rfl
        exact absurd blank (by decide)
      rw [List.flatMap_cons, returnBefore, if_neg other]
      exact .blank blank ih
  | @token place kind chars rest tokens lexeme later ih =>
      cases lexeme with
      | @comment body _ oneLine stops =>
          have inside : '\n' ∉ body := fun member => oneLine _ member rfl
          rcases eq_newline_cons_of_stops stops with rfl | ⟨rest, rfl⟩
          · obtain rfl := later.eq_nil
            exact ih.token_returned (by simpa using inside) (.comment oneLine nofun) rfl
          · obtain ⟨others, newline⟩ := later.of_newline
            exact ih.comment_returned inside newline
      | @name _ letter digits _ starts named number stops =>
          have oneLine : '\n' ∉ letter :: digits := by
            rintro (_ | ⟨_, member⟩)
            · subst starts
              simp [Dialect.kindOf] at named
            · exact absurd (number _ member) (by decide)
          refine ih.token_returned oneLine (.name starts named number (stops.withReturns rfl)) ?_
          refine Token.returned_of_oneLine _ oneLine ?_
          rintro rfl
          simp at named
      | @single _ c _ starts other visible known =>
          by_cases newline : c = '\n'
          · subst newline
            obtain rfl : Kind.newLine = kind := starts
            exact ih.newline_returned
          · have oneLine : '\n' ∉ [c] := by simpa using Ne.symm newline
            refine ih.token_returned oneLine (.single starts other visible known) ?_
            refine Token.returned_of_oneLine _ oneLine ?_
            rintro rfl
            exact other List.mem_cons_self

/-! ## Reading a text with returns -/

theorem returned_append_endOfInput (tokens : List Token) {last : Token}
    (ends : last.kind = .endOfInput) : returned (tokens ++ [last]) = returned tokens ++ [last] := by
  induction tokens with
  | nil => simp [returned, Token.returned, ends]
  | cons token rest ih =>
      have next : token.returned (rest ++ [last]).head? = token.returned rest.head? := by
        cases rest with
        | nil => simp [Token.returned, ends]
        | cons other rest => rfl
      rw [List.cons_append, returned, next, ih, returned, List.cons_append]

theorem find?_returned (tokens : List Token) :
    (returned tokens).find? (·.kind = .unknown) = tokens.find? (·.kind = .unknown) := by
  induction tokens with
  | nil => rfl
  | cons token rest ih =>
      by_cases unknown : token.kind = .unknown
      · have same : token.returned rest.head? = token := by simp [Token.returned, unknown]
        simp [returned, same, unknown]
      · have other := (token.sameButReturn rest.head?).kind
        simp [returned, other, unknown, ih]

/-- The line begins anew after a newline, so a return before it moves nothing. -/
theorem after_returnBefore (place : Text.Position) (chars : List Char) :
    place.after (chars.flatMap returnBefore) = place.after chars := by
  induction chars generalizing place with
  | nil => rfl
  | cons c chars ih =>
      rw [List.flatMap_cons, Text.Position.after_append, ih, Text.Position.after_cons, returnBefore]
      split
      · rename_i newline
        rw [newline]
        rfl
      · rfl

theorem returns_stay_in_comments (dialect : Dialect) (text : String) :
    lex dialect (withReturns text) = (lex dialect text).map returned ∧
      ∀ tokens, List.Forall₂ SameButReturn tokens (returned tokens) := by
  refine ⟨?_, forall₂_returned⟩
  rcases cut_or_refused dialect text with
    ⟨tokens, cut⟩ | ⟨semicolons, tokens, token, rfl, cut, first⟩
  · have recut := cut.withReturns
    rw [← toList_withReturns] at recut
    rw [lex_of_cut cut, lex_of_cut recut, Except.map, returned_append_endOfInput tokens rfl,
      toList_withReturns, after_returnBefore]
  · have recut := cut.withReturns
    rw [← toList_withReturns] at recut
    obtain ⟨c, named, refused⟩ := lex_strict_of_unknown cut first
    obtain ⟨other, again, alike⟩ :=
      lex_strict_of_unknown recut ((find?_returned tokens).trans first)
    have same : [other] = [c] := String.ofList_inj.mp (again.symm.trans named)
    rw [refused, alike, (List.cons.inj same).1, Except.map]

/-- The carriage return is a blank in front of every newline but one that a comment ends at. -/
theorem return_is_kept_by_comment :
    '\r' ∉ "#\nL1".toList ∧
      lex ⟨false, true⟩ "#\nL1" =
        .ok [⟨.comment, "#", ⟨1, 1⟩⟩, ⟨.newLine, "\n", ⟨1, 2⟩⟩, ⟨.dataPoint, "L1", ⟨2, 1⟩⟩,
          ⟨.endOfInput, "", ⟨2, 3⟩⟩] ∧
      lex ⟨false, true⟩ (withReturns "#\nL1") =
        .ok [⟨.comment, "#\r", ⟨1, 1⟩⟩, ⟨.newLine, "\n", ⟨1, 3⟩⟩, ⟨.dataPoint, "L1", ⟨2, 1⟩⟩,
          ⟨.endOfInput, "", ⟨2, 3⟩⟩] ∧ "#\r" ≠ "#" := by
  decide +kernel

end Reaching.Source
