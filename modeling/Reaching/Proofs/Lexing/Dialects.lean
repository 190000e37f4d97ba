import Mathlib.Data.List.Forall2
import Reaching.Proofs.Lexing.Cut

/-! # Strict and permissive readers, with and without semicolons

A character that starts no token is a token of its own for a permissive reader and an error for a
strict one.  Up to the first such character both go the same way: if there is none the strict reader
returns the same tokens (`Cut.strict`), and otherwise it stops there (`scan_strict_of_unknown`).

Whether a semicolon ends an equation decides its kind and nothing else.  It is one character long
either way, and in a comment it is not looked at, so a text is cut at the same places
(`Cut.exists_plain`).

Main fact: `dialects_agree`. -/
set_option autoImplicit false

namespace Reaching.Source

variable {semicolons : Bool} {kind : Kind} {chars rest : List Char} {tokens : List Token}
  {place : Text.Position}

/-! ## Strict readers -/

theorem Lexeme.strict (lexeme : Lexeme ⟨false, semicolons⟩ kind chars rest)
    (known : kind ≠ .unknown) : Lexeme ⟨true, semicolons⟩ kind chars rest := by
  cases lexeme with
  | comment oneLine stops => exact .comment oneLine stops
  | name starts named number stops => exact .name starts named number stops
  | single starts other visible _ => exact .single starts other visible fun _ => known

theorem Lexeme.eq_singleton_of_unknown (lexeme : Lexeme ⟨false, semicolons⟩ .unknown chars rest) :
    ∃ c, chars = [c] ∧ Dialect.kindOf ⟨false, semicolons⟩ c = .unknown ∧ isBlank c = false := by
  cases lexeme with
  | name _ named _ _ => simp at named
  | @single _ c _ starts _ visible _ => exact ⟨c, rfl, starts, visible⟩

theorem Cut.strict (cut : Cut ⟨false, semicolons⟩ place chars tokens)
    (known : ∀ token ∈ tokens, token.kind ≠ .unknown) :
    Cut ⟨true, semicolons⟩ place chars tokens := by
  induction cut with
  | ended place => exact .ended place
  | blank blank _ ih => exact .blank blank (ih known)
  | token lexeme _ ih =>
      rw [List.forall_mem_cons] at known
      exact .token (lexeme.strict known.1) (ih known.2)

theorem scan_strict_of_unknown (cut : Cut ⟨false, semicolons⟩ place chars tokens) {token : Token}
    (first : tokens.find? (·.kind = .unknown) = some token) : ∀ offset, ∃ stop c rest,
      ((Cursor.mk offset place chars).scan ⟨true, semicolons⟩).2 = ⟨stop, token.place, c :: rest⟩ ∧
        token.lexeme = String.ofList [c] := by
  induction cut with
  | ended place => simp at first
  | blank blank _ ih =>
      intro offset
      rw [Cursor.scan_blank blank]
      exact ih first (offset + 1)
  | @token place kind chars rest tokens lexeme _ ih =>
      intro offset
      by_cases unknown : kind = .unknown
      · subst unknown
        obtain ⟨c, rfl, starts, visible⟩ := lexeme.eq_singleton_of_unknown
        obtain rfl : Token.mk .unknown (String.ofList [c]) place = token := by simpa using first
        have here : (Cursor.mk offset place ([c] ++ rest)).skipBlanks =
            ⟨offset, place, c :: rest⟩ := by
          apply Cursor.skipBlanks_of_visible
          rintro other ⟨⟩
          exact visible
        have refused : (true && Dialect.kindOf ⟨true, semicolons⟩ c = .unknown) = true :=
          decide_eq_true starts
        refine ⟨offset, c, rest, ?_, rfl⟩
        rw [Cursor.scan_eq, here]
        simp only [refused, if_true]
      · rw [List.find?_cons_of_neg (by simpa using unknown)] at first
        rw [Cursor.scan_token (lexeme.strict unknown)]
        exact ih first (offset + chars.length)

theorem lex_strict_of_unknown {text : String}
    (cut : Cut ⟨false, semicolons⟩ .start text.toList tokens) {token : Token}
    (first : tokens.find? (·.kind = .unknown) = some token) : ∃ c,
      token.lexeme = c.toString ∧ lex ⟨true, semicolons⟩ text = .error ⟨c, token.place⟩ := by
  obtain ⟨stop, c, rest, stopped, named⟩ := scan_strict_of_unknown cut first 0
  refine ⟨c, named, ?_⟩
  rw [lex, Cursor.tokens, Cursor.ofText]
  simp only [stopped]

/-- A text is cut, or a strict reader stops at the first character that starts no token. -/
theorem cut_or_refused (dialect : Dialect) (text : String) :
    (∃ tokens, Cut dialect .start text.toList tokens) ∨
      ∃ semicolons tokens token, dialect = ⟨true, semicolons⟩ ∧
        Cut ⟨false, semicolons⟩ .start text.toList tokens ∧
          tokens.find? (·.kind = .unknown) = some token := by
  obtain ⟨strict, semicolons⟩ := dialect
  obtain ⟨tokens, cut⟩ : ∃ tokens, Cut ⟨false, semicolons⟩ .start text.toList tokens :=
    exists_cut_permissive rfl text.toList .start
  cases strict with
  | false => exact Or.inl ⟨tokens, cut⟩
  | true =>
      cases first : tokens.find? (·.kind = .unknown) with
      | none => exact Or.inl ⟨tokens, cut.strict (by simpa using first)⟩
      | some token => exact Or.inr ⟨semicolons, tokens, token, rfl, cut, first⟩

/-- What a strict reader makes of a text that has `tokens` for a permissive one. -/
structure StrictReading (semicolons : Bool) (text : String) (tokens : List Token) : Prop where
  succeeds : (∃ found, lex ⟨true, semicolons⟩ text = .ok found) ↔
    ∀ token ∈ tokens, token.kind ≠ .unknown
  same : ∀ found, lex ⟨true, semicolons⟩ text = .ok found → found = tokens
  refuses : ∀ e, lex ⟨true, semicolons⟩ text = .error e →
    ∃ token, tokens.find? (·.kind = .unknown) = some token ∧ e.place = token.place ∧
      e.found.toString = token.lexeme ∧
        e.message = "Lexer error at line " ++ toString token.place.line ++ ", column " ++
          toString token.place.column ++ ": Unexpected character: " ++ Text.quoted token.lexeme

/-! ## Semicolons -/

theorem Dialect.kindOf_congr (dialect other : Dialect) {c : Char} (different : c ≠ ';') :
    dialect.kindOf c = other.kindOf c := by
  unfold kindOf
  split <;> simp_all

/-- Two tokens that differ in kind if they are a semicolon, and in nothing else. -/
structure SameButSemicolon (ended plain : Token) : Prop where
  lexeme : ended.lexeme = plain.lexeme
  place : ended.place = plain.place
  semicolon : ended.lexeme = ";" → ended.kind = .newLine ∧ plain.kind = .unknown
  other : ended.lexeme ≠ ";" → ended.kind = plain.kind

theorem Lexeme.exists_plain (lexeme : Lexeme ⟨false, true⟩ kind chars rest) :
    ∃ other, Lexeme ⟨false, false⟩ other chars rest ∧
      (chars = [';'] → kind = .newLine ∧ other = .unknown) ∧ (chars ≠ [';'] → kind = other) := by
  cases lexeme with
  | comment oneLine stops =>
      refine ⟨.comment, .comment oneLine stops, fun same => ?_, fun _ => rfl⟩
      simp at same
  | @name _ letter digits _ starts named number stops =>
      have different : letter ≠ ';' := by
        rintro rfl
        subst starts
        simp [Dialect.kindOf] at named
      have same := (Dialect.kindOf_congr ⟨false, false⟩ ⟨false, true⟩ different).trans starts
      refine ⟨kind, .name same named number stops, fun semicolon => ?_, fun _ => rfl⟩
      exact absurd (List.cons.inj semicolon).1 different
  | @single _ c _ starts other visible known =>
      by_cases semicolon : c = ';'
      · subst semicolon
        refine ⟨.unknown, .single rfl (by decide) visible nofun, fun _ => ⟨starts.symm, rfl⟩, ?_⟩
        exact fun different => absurd rfl different
      · have same := (Dialect.kindOf_congr ⟨false, false⟩ ⟨false, true⟩ semicolon).trans starts
        refine ⟨kind, .single same other visible nofun, fun same => ?_, fun _ => rfl⟩
        exact absurd (List.cons.inj same).1 semicolon

theorem Cut.exists_plain (cut : Cut ⟨false, true⟩ place chars tokens) :
    ∃ plain, Cut ⟨false, false⟩ place chars plain ∧ List.Forall₂ SameButSemicolon tokens plain := by
  induction cut with
  | ended place => exact ⟨[], .ended place, .nil⟩
  | blank blank _ ih =>
      obtain ⟨plain, cut, same⟩ := ih
      exact ⟨plain, .blank blank cut, same⟩
  | @token place kind chars rest tokens lexeme _ ih =>
      obtain ⟨plain, cut, same⟩ := ih
      obtain ⟨other, relabelled, semicolon, unchanged⟩ := lexeme.exists_plain
      have written : String.ofList chars = String.ofList [';'] ↔ chars = [';'] :=
        String.ofList_inj
      refine ⟨_, .token relabelled cut, .cons ⟨rfl, rfl, ?_, ?_⟩ same⟩
      · exact fun same => semicolon (written.mp same)
      · exact fun different => unchanged fun same => different (written.mpr same)

/-! ## All four readers -/

theorem strictReading_of_cut {text : String}
    (cut : Cut ⟨false, semicolons⟩ .start text.toList tokens) :
    StrictReading semicolons text
      (tokens ++ [⟨.endOfInput, "", Text.Position.start.after text.toList⟩]) := by
  cases first : tokens.find? (·.kind = .unknown) with
  | none =>
      have known : ∀ token ∈ tokens, token.kind ≠ .unknown := by simpa using first
      have read := lex_of_cut (cut.strict known)
      constructor
      · refine ⟨fun _ => ?_, fun _ => ⟨_, read⟩⟩
        exact List.forall_mem_append.mpr ⟨known, by simp⟩
      · exact fun found again => Except.ok.inj (again.symm.trans read)
      · intro e refused
        simp [read] at refused
  | some token =>
      obtain ⟨c, named, refused⟩ := lex_strict_of_unknown cut first
      constructor
      · constructor
        · rintro ⟨found, read⟩
          simp [refused] at read
        · intro known
          have unknown : token.kind = .unknown := by simpa using List.find?_some first
          have member : token ∈ tokens := List.mem_of_find?_eq_some first
          exact absurd unknown (known token (List.mem_append_left _ member))
      · intro found read
        simp [refused] at read
      · intro e read
        obtain rfl : LexError.mk c token.place = e := Except.error.inj (refused.symm.trans read)
        refine ⟨token, ?_, rfl, named.symm, ?_⟩
        · rw [List.find?_append, first, Option.some_or]
        · rw [named]
          rfl

theorem dialects_agree (text : String) :
    (∀ semicolons, ∃ tokens, lex ⟨false, semicolons⟩ text = .ok tokens ∧
      StrictReading semicolons text tokens) ∧
    ∃ ended plain, lex ⟨false, true⟩ text = .ok ended ∧ lex ⟨false, false⟩ text = .ok plain ∧
      List.Forall₂ SameButSemicolon ended plain := by
  have cuts : ∀ semicolons, ∃ tokens, Cut ⟨false, semicolons⟩ .start text.toList tokens :=
    fun semicolons => exists_cut_permissive rfl text.toList .start
  constructor
  · intro semicolons
    obtain ⟨tokens, cut⟩ := cuts semicolons
    exact ⟨_, lex_of_cut cut, strictReading_of_cut cut⟩
  · obtain ⟨ended, cut⟩ := cuts true
    obtain ⟨plain, recut, same⟩ := cut.exists_plain
    have last (place : Text.Position) : SameButSemicolon ⟨.endOfInput, "", place⟩
        ⟨.endOfInput, "", place⟩ := ⟨rfl, rfl, by simp, fun _ => rfl⟩
    refine ⟨_, _, lex_of_cut cut, lex_of_cut recut, ?_⟩
    exact List.rel_append same (.cons (last _) .nil)

end Reaching.Source
