import Mathlib.Data.List.Induction
import Reaching.Proofs.Lexing.Dialects
import Reaching.Proofs.Lexing.Exact

/-! # Cursors that are moved in any way

A cursor may be asked to look ahead, to move on, to pass over blanks, to read a comment or a name
whatever stands there, or to read all tokens, in any order and also after a character was refused.
Each of these calls moves it on by some number of characters (`Call.exists_advance`), so the place that
it has counted and the characters that it has still to read are those that its offset determines:
`Counted` holds at the start, and a move keeps it (`Counted.advance`).

Reading does not depend on where a text begins.  The tokens from a cursor on are those of the rest of
the text alone, each at the place where it is if the rest begins at the cursor (`Position.movedTo`,
`tokens_eq_readAt`).

Main fact: `calls_keep_count`. -/
set_option autoImplicit false

namespace Reaching

namespace Text.Position

/-- The place of what stands at `place` in a text, if the text begins at `origin`. -/
def movedTo (place origin : Position) : Position :=
  if place.line = 1 then ⟨origin.line, origin.column + (place.column - 1)⟩
  else ⟨origin.line + (place.line - 1), place.column⟩

theorem next_movedTo (place origin : Position) (c : Char) (line : 1 ≤ place.line)
    (column : 1 ≤ place.column) : (place.next c).movedTo origin = (place.movedTo origin).next c := by
  by_cases newline : c = '\n'
  · subst newline
    have below : place.line + 1 ≠ 1 := by omega
    have counted : (place.movedTo origin).line + 1 = origin.line + place.line := by
      rw [movedTo]
      split
      · rename_i first
        rw [first]
      · change origin.line + (place.line - 1) + 1 = origin.line + place.line
        omega
    change movedTo ⟨place.line + 1, 1⟩ origin = ⟨(place.movedTo origin).line + 1, 1⟩
    rw [counted, movedTo, if_neg below, Nat.add_sub_cancel]
  · by_cases first : place.line = 1
    · simp only [next, movedTo, if_neg newline, if_pos first]
      congr 1
      omega
    · simp only [next, movedTo, if_neg newline, if_neg first]

/-- A text that begins at `origin` goes on where its first part has led to. -/
theorem ofPrefix_movedTo (passed : List Char) (origin : Position) :
    (ofPrefix passed).movedTo origin = origin.after passed := by
  induction passed using List.reverseRecOn with
  | nil => rfl
  | append_singleton passed c ih =>
      rw [ofPrefix_concat, next_movedTo _ _ _ (Nat.le_add_right 1 _) (Nat.le_add_right 1 _), ih,
        after_append]
      rfl

end Text.Position

namespace Source

open Text.Position (ofPrefix ofPrefix_concat after_ofPrefix ofPrefix_movedTo)

/-! ## Texts that begin elsewhere -/

def Token.movedTo (origin : Text.Position) (token : Token) : Token :=
  { token with place := token.place.movedTo origin }

def LexError.movedTo (origin : Text.Position) (e : LexError) : LexError :=
  { e with place := e.place.movedTo origin }

def readAt (origin : Text.Position) (outcome : Except LexError (List Token)) :
    Except LexError (List Token) :=
  (outcome.map (·.map (Token.movedTo origin))).mapError (LexError.movedTo origin)

theorem Cut.movedTo {dialect : Dialect} {place : Text.Position} {chars : List Char}
    {tokens : List Token} (cut : Cut dialect place chars tokens) (origin : Text.Position) :
    ∀ passed, place = ofPrefix passed →
      Cut dialect (origin.after passed) chars (tokens.map (Token.movedTo origin)) := by
  induction cut with
  | ended place => exact fun _ _ => .ended _
  | @blank place c rest tokens blank later ih =>
      rintro passed rfl
      have moved := ih (passed ++ [c]) (ofPrefix_concat passed c).symm
      rw [Text.Position.after_append] at moved
      exact .blank blank moved
  | @token place kind chars rest tokens lexeme later ih =>
      rintro passed rfl
      have moved := ih (passed ++ chars) (after_ofPrefix passed chars)
      rw [Text.Position.after_append] at moved
      rw [List.map_cons, Token.movedTo, ofPrefix_movedTo]
      exact .token lexeme moved

/-- The tokens from a cursor on are those of the rest of the text alone, moved to the cursor. -/
theorem tokens_eq_readAt (dialect : Dialect) (cursor : Cursor) :
    (cursor.tokens dialect).1 = readAt cursor.place (lex dialect (String.ofList cursor.rest)) := by
  obtain ⟨offset, origin, chars⟩ := cursor
  rcases cut_or_refused dialect (String.ofList chars) with
    ⟨tokens, cut⟩ | ⟨semicolons, tokens, token, rfl, cut, first⟩
  · rw [lex_of_cut cut]
    rw [String.toList_ofList] at cut ⊢
    have moved : Cut dialect origin chars (tokens.map (Token.movedTo origin)) :=
      cut.movedTo origin [] rfl
    have ended : (Text.Position.start.after chars).movedTo origin = origin.after chars := by
      rw [show Text.Position.start = ofPrefix [] from rfl, after_ofPrefix, ofPrefix_movedTo,
        List.nil_append]
    rw [Cursor.tokens, Cursor.scan_of_cut moved]
    simp [readAt, Except.map, Except.mapError, Token.movedTo, ended]
  · obtain ⟨c, named, refused⟩ := lex_strict_of_unknown cut first
    rw [String.toList_ofList] at cut
    have among : (tokens.map (Token.movedTo origin)).find? (·.kind = .unknown) =
        some (token.movedTo origin) := by
      rw [List.find?_map]
      change Option.map _ (tokens.find? (·.kind = .unknown)) = _
      rw [first]
      rfl
    have moved : Cut ⟨false, semicolons⟩ origin chars (tokens.map (Token.movedTo origin)) :=
      cut.movedTo origin [] rfl
    obtain ⟨stop, other, rest, stopped, same⟩ := scan_strict_of_unknown moved among offset
    obtain rfl : c = other := by
      have equal : String.ofList [c] = String.ofList [other] := named.symm.trans same
      simpa using equal
    rw [refused, Cursor.tokens]
    simp only [stopped]
    rfl

/-! ## Moves -/

namespace Cursor

theorem advance_zero (cursor : Cursor) : cursor.advance 0 = cursor := rfl

theorem advance_advance (cursor : Cursor) (first second : Nat) :
    (cursor.advance first).advance second = cursor.advance (first + second) := by
  simp only [advance, List.take_add, List.length_append, Text.Position.after_append, List.drop_drop,
    Nat.add_assoc]

theorem exists_advance_readIdentifier (cursor : Cursor) (kind : Kind) :
    ∃ count, (cursor.readIdentifier kind).2 = cursor.advance count :=
  ⟨_, advance_advance cursor 1 _⟩

theorem exists_advance_readToken (cursor : Cursor) (kind : Kind) :
    ∃ count, (cursor.readToken kind).2 = cursor.advance count := by
  unfold readToken
  split
  · exact ⟨_, rfl⟩
  · exact exists_advance_readIdentifier cursor _
  · exact exists_advance_readIdentifier cursor _
  · exact ⟨1, rfl⟩

theorem exists_advance_scan (dialect : Dialect) (cursor : Cursor) :
    ∃ count, (cursor.scan dialect).2 = cursor.advance count := by
  fun_induction scan dialect cursor with
  | case1 cursor ended => exact ⟨_, rfl⟩
  | case2 cursor c rest here refused => exact ⟨_, rfl⟩
  | case3 cursor c rest here known read found ih =>
      obtain ⟨blanks, skipped⟩ : ∃ count, cursor.skipBlanks = cursor.advance count := ⟨_, rfl⟩
      obtain ⟨token, taken⟩ := exists_advance_readToken cursor.skipBlanks (dialect.kindOf c)
      obtain ⟨more, later⟩ := ih
      refine ⟨blanks + token + more, ?_⟩
      rw [← advance_advance, ← advance_advance, ← skipped, ← taken]
      exact later

/-- A scan stops inside the text only in a strict dialect, at a character that starts no token. -/
theorem refused_of_scan {dialect : Dialect} {cursor : Cursor} {c : Char} {rest : List Char}
    (stopped : (cursor.scan dialect).2.rest = c :: rest) :
    dialect.strict = true ∧ dialect.kindOf c = .unknown := by
  fun_induction scan dialect cursor with
  | case1 cursor ended =>
      rw [ended] at stopped
      contradiction
  | case2 cursor other tail here refused =>
      obtain ⟨rfl, rfl⟩ := List.cons.inj (here.symm.trans stopped)
      simpa using refused
  | case3 cursor other tail here known read found ih => exact ih stopped

theorem tokens_snd (dialect : Dialect) (cursor : Cursor) :
    (cursor.tokens dialect).2 = (cursor.scan dialect).2 := by
  rw [tokens]
  obtain ⟨found, stop⟩ := cursor.scan dialect
  cases ahead : stop.rest <;> simp only [ahead]

/-- A failure leaves the cursor at the character that is reported. -/
theorem stopped_of_error {dialect : Dialect} {cursor : Cursor} {e : LexError}
    (failed : (cursor.tokens dialect).1 = .error e) :
    ((cursor.tokens dialect).2.rest.head? = some e.found ∧ (cursor.tokens dialect).2.place = e.place) ∧
      dialect.strict = true ∧ dialect.kindOf e.found = .unknown := by
  rw [tokens_snd]
  rw [tokens] at failed
  cases ahead : (cursor.scan dialect).2.rest with
  | nil =>
      simp only [ahead] at failed
      contradiction
  | cons c rest =>
      simp only [ahead] at failed
      obtain rfl := Except.error.inj failed
      exact ⟨⟨rfl, rfl⟩, refused_of_scan ahead⟩

end Cursor

inductive Call where
  | peek (ahead : Nat)
  | advance
  | skipBlanks
  | readComment
  | readIdentifier (kind : Kind)
  | tokens

namespace Call

def leaves (dialect : Dialect) (cursor : Cursor) : Call → Cursor
  | peek _ => cursor
  | advance => cursor.advance 1
  | skipBlanks => cursor.skipBlanks
  | readComment => cursor.readComment.2
  | readIdentifier kind => (cursor.readIdentifier kind).2
  | tokens => (cursor.tokens dialect).2

theorem exists_advance (dialect : Dialect) (cursor : Cursor) (call : Call) :
    ∃ count, call.leaves dialect cursor = cursor.advance count := by
  cases call with
  | peek ahead => exact ⟨0, cursor.advance_zero.symm⟩
  | advance => exact ⟨1, rfl⟩
  | skipBlanks => exact ⟨_, rfl⟩
  | readComment => exact ⟨_, rfl⟩
  | readIdentifier kind => exact cursor.exists_advance_readIdentifier kind
  | tokens =>
      rw [leaves, Cursor.tokens_snd]
      exact cursor.exists_advance_scan dialect

end Call

/-- The cursor has passed the first `offset` characters of the text, has counted their lines and
columns and has the others still to read. -/
structure Counted (text : String) (cursor : Cursor) : Prop where
  within : cursor.offset ≤ text.toList.length
  place : cursor.place = ofPrefix (text.toList.take cursor.offset)
  rest : cursor.rest = text.toList.drop cursor.offset

namespace Counted

variable {text : String} {cursor : Cursor}

theorem ofText (text : String) : Counted text (Cursor.ofText text) :=
  ⟨Nat.zero_le _, rfl, rfl⟩

theorem advance (counted : Counted text cursor) (count : Nat) :
    Counted text (cursor.advance count) := by
  obtain ⟨within, place, rest⟩ := counted
  -- Near the end of the text fewer than `count` characters are passed.
  have passed : (cursor.advance count).offset = cursor.offset + min count cursor.rest.length :=
    congrArg (cursor.offset + ·) List.length_take
  constructor
  · rw [passed, rest, List.length_drop]
    omega
  · rw [passed, List.take_add, ← rest, ← List.take_eq_take_min, ← after_ofPrefix, ← place]
    rfl
  · rw [passed, ← List.drop_drop, ← rest, ← List.drop_eq_drop_min]
    rfl

theorem calls (dialect : Dialect) (asked : List Call) (counted : Counted text cursor) :
    Counted text (asked.foldl (Call.leaves dialect) cursor) ∧
      cursor.offset ≤ (asked.foldl (Call.leaves dialect) cursor).offset := by
  induction asked generalizing cursor with
  | nil => exact ⟨counted, Nat.le_refl _⟩
  | cons call asked ih =>
      obtain ⟨count, moved⟩ := Call.exists_advance dialect cursor call
      obtain ⟨kept, later⟩ := ih (moved ▸ counted.advance count)
      refine ⟨kept, Nat.le_trans ?_ later⟩
      rw [moved]
      exact Nat.le_add_right _ _

end Counted

/-- Whatever a cursor has been asked for, its offset is in the text and does not go back, and its
place is counted from the characters before it.  The tokens from there on are those of the rest of
the text alone, moved to that place; a failure leaves the cursor at the character that it reports. -/
theorem calls_keep_count (dialect : Dialect) (text : String) (asked more : List Call) :
    let cursor := asked.foldl (Call.leaves dialect) (Cursor.ofText text)
    let passed := text.toList.take cursor.offset
    let answer := cursor.tokens dialect
    cursor.offset ≤ (more.foldl (Call.leaves dialect) cursor).offset ∧
      cursor.offset ≤ text.toList.length ∧
      cursor.place.line = 1 + passed.count '\n' ∧
      cursor.place.column = 1 + (passed.reverse.takeWhile (· ≠ '\n')).length ∧
      answer.1 = readAt cursor.place
        (lex dialect (String.ofList (text.toList.drop cursor.offset))) ∧
      ∀ e, answer.1 = .error e →
        text.toList[answer.2.offset]? = some e.found ∧ answer.2.place = e.place ∧
          dialect.strict = true ∧ dialect.kindOf e.found = .unknown := by
  intro cursor passed answer
  have counted : Counted text cursor := ((Counted.ofText text).calls dialect asked).1
  refine ⟨(counted.calls dialect more).2, counted.within, ?_, ?_, ?_, fun e failed => ?_⟩
  · rw [counted.place]
    rfl
  · rw [counted.place]
    rfl
  · rw [← counted.rest]
    exact tokens_eq_readAt dialect cursor
  · obtain ⟨⟨ahead, place⟩, refused⟩ := Cursor.stopped_of_error failed
    have stopped : Counted text answer.2 := (counted.calls dialect [.tokens]).1
    rw [← List.head?_drop, ← stopped.rest]
    exact ⟨ahead, place, refused⟩

/-- Reading stops at the question mark, and goes on behind it until it stops again. -/
example : [.tokens, .advance, .tokens].foldl (Call.leaves ⟨true, true⟩)
    (Cursor.ofText "L1 = ?\nL2 U !") = ⟨12, ⟨2, 6⟩, ['!']⟩ := by cbv

end Source
end Reaching
