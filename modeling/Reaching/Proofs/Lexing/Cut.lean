import Reaching.Source.Lexer

/-! # Texts cut into tokens

`Cut` relates a text, read from a place on, to the tokens in it: blanks are passed over and each
token is a lexeme at the place where it stands.  What a lexeme is can depend on the rest of the text
(`Lexeme`): a name ends where its digits end and a comment where its line does.

Main facts: the tokens of a text that is cut are those that the lexer reads (`lex_of_cut`), and where
no character is an error every text is cut (`exists_cut_permissive`). -/
set_option autoImplicit false

namespace Reaching.Source

def Stops (test : Char → Bool) (rest : List Char) : Prop := ∀ c ∈ rest.head?, test c = false

theorem stops_append {test : Char → Bool} {front rest : List Char} (first : Stops test front)
    (second : Stops test rest) : Stops test (front ++ rest) := by
  cases front with
  | nil => exact second
  | cons c front => exact first

theorem takeWhile_of_stops {test : Char → Bool} {run rest : List Char}
    (passes : ∀ c ∈ run, test c = true) (stops : Stops test rest) :
    (run ++ rest).takeWhile test = run := by
  rw [List.takeWhile_append_of_pos passes]
  cases rest with
  | nil => exact List.append_nil run
  | cons c rest =>
      have fails : test c = false := stops c rfl
      rw [List.takeWhile_cons_of_neg (by simp [fails]), List.append_nil]

theorem stops_dropWhile (test : Char → Bool) (chars : List Char) :
    Stops test (chars.dropWhile test) := by
  intro c first
  have fails := List.head?_dropWhile_not test chars
  rw [Option.mem_def.mp first] at fails
  exact fails

theorem passes_takeWhile {test : Char → Bool} {c : Char} {chars : List Char}
    (member : c ∈ chars.takeWhile test) : test c = true :=
  List.all_eq_true.mp List.all_takeWhile c member

/-- The characters are one token of the kind, if the rest comes after them. -/
inductive Lexeme (dialect : Dialect) : Kind → List Char → List Char → Prop where
  | comment {body rest : List Char} (oneLine : ∀ c ∈ body, c ≠ '\n')
      (stops : Stops (· ≠ '\n') rest) : Lexeme dialect .comment ('#' :: body) rest
  | name {kind : Kind} {letter : Char} {digits rest : List Char}
      (starts : dialect.kindOf letter = kind) (named : kind = .dataPoint ∨ kind = .definition)
      (number : ∀ c ∈ digits, c.isDigit = true) (stops : Stops Char.isDigit rest) :
      Lexeme dialect kind (letter :: digits) rest
  | single {kind : Kind} {c : Char} {rest : List Char} (starts : dialect.kindOf c = kind)
      (other : kind ∉ [Kind.comment, .dataPoint, .definition]) (visible : isBlank c = false)
      (known : dialect.strict = true → kind ≠ .unknown) : Lexeme dialect kind [c] rest

inductive Cut (dialect : Dialect) : Text.Position → List Char → List Token → Prop where
  | ended (place : Text.Position) : Cut dialect place [] []
  | blank {place : Text.Position} {c : Char} {rest : List Char} {tokens : List Token}
      (blank : isBlank c = true) (later : Cut dialect (place.next c) rest tokens) :
      Cut dialect place (c :: rest) tokens
  | token {place : Text.Position} {kind : Kind} {chars rest : List Char} {tokens : List Token}
      (lexeme : Lexeme dialect kind chars rest)
      (later : Cut dialect (place.after chars) rest tokens) :
      Cut dialect place (chars ++ rest) (⟨kind, String.ofList chars, place⟩ :: tokens)

theorem Cut.blanks {dialect : Dialect} {place : Text.Position} {blanks rest : List Char}
    {tokens : List Token} (blank : blanks.all isBlank = true)
    (later : Cut dialect (place.after blanks) rest tokens) :
    Cut dialect place (blanks ++ rest) tokens := by
  induction blanks generalizing place with
  | nil => exact later
  | cons c blanks ih =>
      obtain ⟨first, others⟩ := Bool.and_eq_true_iff.mp (List.all_cons ▸ blank)
      exact .blank first (ih others later)

/-! ## The character that a lexeme starts with -/

/-- The tokens that can be longer than one character are known by their first. -/
theorem Dialect.initial_of_kindOf (dialect : Dialect) (c : Char) :
    (dialect.kindOf c = .comment → c = '#') ∧ (dialect.kindOf c = .dataPoint → c = 'L') ∧
      (dialect.kindOf c = .definition → c = 'd') := by
  unfold kindOf
  cases dialect.semicolons <;> split <;> simp

theorem Dialect.visible_of_named {dialect : Dialect} {kind : Kind} {c : Char}
    (starts : dialect.kindOf c = kind) (named : kind = .dataPoint ∨ kind = .definition) :
    isBlank c = false := by
  have initial := dialect.initial_of_kindOf c
  rcases named with rfl | rfl
  · rw [initial.2.1 starts]
    rfl
  · rw [initial.2.2 starts]
    rfl

/-- A lexeme starts with a character of its kind, which the lexer does not pass over or report. -/
theorem Lexeme.head {dialect : Dialect} {kind : Kind} {chars rest : List Char}
    (lexeme : Lexeme dialect kind chars rest) :
    ∃ c tail, chars = c :: tail ∧ dialect.kindOf c = kind ∧ isBlank c = false ∧
      (dialect.strict && dialect.kindOf c = .unknown) = false := by
  cases lexeme with
  | comment oneLine stops => exact ⟨'#', _, rfl, rfl, rfl, Bool.and_false _⟩
  | @name _ letter digits _ starts named number stops =>
      refine ⟨letter, digits, rfl, starts, Dialect.visible_of_named starts named, ?_⟩
      rcases named with rfl | rfl <;> simp [starts]
  | @single _ c _ starts other visible known =>
      refine ⟨c, [], rfl, starts, visible, ?_⟩
      cases strict : dialect.strict with
      | false => rfl
      | true => simpa [starts] using known strict

namespace Cursor

/-! ## Reading what is ahead -/

theorem advance_append (offset : Nat) (place : Text.Position) (run rest : List Char) :
    (Cursor.mk offset place (run ++ rest)).advance run.length =
      ⟨offset + run.length, place.after run, rest⟩ := by
  simp [advance]

theorem span_append {test : Char → Bool} (offset : Nat) (place : Text.Position)
    {run rest : List Char} (passes : ∀ c ∈ run, test c = true) (stops : Stops test rest) :
    (Cursor.mk offset place (run ++ rest)).span test =
      (run, ⟨offset + run.length, place.after run, rest⟩) := by
  rw [span, takeWhile_of_stops passes stops, advance_append]

theorem readToken_append {dialect : Dialect} {kind : Kind} {chars rest : List Char}
    (lexeme : Lexeme dialect kind chars rest) (offset : Nat) (place : Text.Position) :
    (Cursor.mk offset place (chars ++ rest)).readToken kind =
      (⟨kind, String.ofList chars, place⟩, ⟨offset + chars.length, place.after chars, rest⟩) := by
  cases lexeme with
  | @comment body rest oneLine stops =>
      have passes : ∀ c ∈ '#' :: body, decide (c ≠ '\n') = true :=
        List.forall_mem_cons.mpr ⟨by decide, fun c member => decide_eq_true (oneLine c member)⟩
      rw [readToken, readComment, span_append offset place passes stops]
  | @name _ letter digits rest starts named number stops =>
      have read : (Cursor.mk offset place (letter :: digits ++ rest)).readIdentifier kind =
          (⟨kind, String.ofList (letter :: digits), place⟩,
            ⟨offset + (letter :: digits).length, place.after (letter :: digits), rest⟩) := by
        have first := advance_append offset place [letter] (digits ++ rest)
        rw [readIdentifier, List.cons_append]
        simp only [List.length_singleton, List.singleton_append] at first
        rw [first, span_append _ _ number stops, List.length_cons, Nat.add_assoc, Nat.add_comm 1]
        rfl
      rcases named with rfl | rfl
      · exact read
      · exact read
  | @single _ c rest starts other visible known =>
      have read : (Cursor.mk offset place ([c] ++ rest)).readSingle kind =
          (⟨kind, String.ofList [c], place⟩, ⟨offset + 1, place.after [c], rest⟩) := by
        simp [readSingle, advance]
      cases kind <;> first | exact read | exact absurd (by decide) other

theorem skipBlanks_of_visible {cursor : Cursor} (stops : Stops isBlank cursor.rest) :
    cursor.skipBlanks = cursor := by
  have none : ∀ c ∈ ([] : List Char), isBlank c = true := nofun
  exact congrArg Prod.snd (span_append cursor.offset cursor.place none stops)

theorem skipBlanks_of_blank {c : Char} (blank : isBlank c = true) (offset : Nat)
    (place : Text.Position) (rest : List Char) :
    (Cursor.mk offset place (c :: rest)).skipBlanks =
      (Cursor.mk (offset + 1) (place.next c) rest).skipBlanks := by
  simp [skipBlanks, span, advance, List.takeWhile_cons_of_pos blank]
  omega

/-! ## Scanning -/

theorem scan_eq (dialect : Dialect) (cursor : Cursor) :
    cursor.scan dialect =
      match cursor.skipBlanks.rest with
      | [] => ([], cursor.skipBlanks)
      | c :: _ =>
        if dialect.strict && dialect.kindOf c = .unknown then ([], cursor.skipBlanks)
        else
          let read := cursor.skipBlanks.readToken (dialect.kindOf c)
          (read.1 :: (read.2.scan dialect).1, (read.2.scan dialect).2) := by
  rw [scan]
  split <;> simp_all

theorem scan_blank {dialect : Dialect} {c : Char} (blank : isBlank c = true) (offset : Nat)
    (place : Text.Position) (rest : List Char) :
    (Cursor.mk offset place (c :: rest)).scan dialect =
      (Cursor.mk (offset + 1) (place.next c) rest).scan dialect := by
  rw [scan_eq, skipBlanks_of_blank blank, ← scan_eq]

theorem scan_token {dialect : Dialect} {kind : Kind} {chars rest : List Char}
    (lexeme : Lexeme dialect kind chars rest) (offset : Nat) (place : Text.Position) :
    (Cursor.mk offset place (chars ++ rest)).scan dialect =
      let found := (Cursor.mk (offset + chars.length) (place.after chars) rest).scan dialect
      (⟨kind, String.ofList chars, place⟩ :: found.1, found.2) := by
  have read := readToken_append lexeme offset place
  obtain ⟨c, tail, rfl, starts, visible, known⟩ := lexeme.head
  have here : (Cursor.mk offset place (c :: tail ++ rest)).skipBlanks =
      ⟨offset, place, c :: tail ++ rest⟩ := by
    apply skipBlanks_of_visible
    rintro other ⟨⟩
    exact visible
  rw [scan_eq, here]
  simp only [List.cons_append] at read ⊢
  rw [known, if_neg Bool.false_ne_true, starts, read]

/-- The scan of a text that is cut reaches the end of it. -/
theorem scan_of_cut {dialect : Dialect} {place : Text.Position} {chars : List Char}
    {tokens : List Token} (cut : Cut dialect place chars tokens) :
    ∀ offset, (Cursor.mk offset place chars).scan dialect =
      (tokens, ⟨offset + chars.length, place.after chars, []⟩) := by
  induction cut with
  | ended place =>
      intro offset
      have here : (Cursor.mk offset place []).skipBlanks = ⟨offset, place, []⟩ :=
        skipBlanks_of_visible nofun
      rw [scan_eq, here]
      rfl
  | @blank place c rest tokens blank later ih =>
      intro offset
      rw [scan_blank blank, ih, List.length_cons, Text.Position.after_cons, Nat.add_assoc,
        Nat.add_comm 1]
  | @token place kind chars rest tokens lexeme later ih =>
      intro offset
      rw [scan_token lexeme, ih, List.length_append, Text.Position.after_append, Nat.add_assoc]

end Cursor

/-! ## Texts and their tokens -/

/-- A character that is neither a blank nor an error starts a lexeme. -/
theorem exists_lexeme {dialect : Dialect} {c : Char} (tail : List Char)
    (visible : isBlank c = false)
    (known : dialect.strict = true → dialect.kindOf c ≠ .unknown) :
    ∃ chars rest, c :: tail = (c :: chars) ++ rest ∧
      Lexeme dialect (dialect.kindOf c) (c :: chars) rest := by
  have split : ∀ test, c :: tail = (c :: tail.takeWhile test) ++ tail.dropWhile test :=
    fun test => congrArg (c :: ·) List.takeWhile_append_dropWhile.symm
  by_cases comment : dialect.kindOf c = .comment
  · obtain rfl : c = '#' := (dialect.initial_of_kindOf c).1 comment
    rw [comment]
    refine ⟨_, _, split (· ≠ '\n'), .comment (fun other member => ?_) (stops_dropWhile _ tail)⟩
    exact of_decide_eq_true (passes_takeWhile member)
  by_cases named : dialect.kindOf c = .dataPoint ∨ dialect.kindOf c = .definition
  · refine ⟨_, _, split Char.isDigit, .name rfl named (fun other member => ?_) ?_⟩
    · exact passes_takeWhile member
    · exact stops_dropWhile Char.isDigit tail
  · refine ⟨[], tail, rfl, .single rfl ?_ visible known⟩
    simp only [List.mem_cons, List.not_mem_nil, or_false, not_or] at named ⊢
    exact ⟨comment, named⟩

theorem exists_cut_permissive {dialect : Dialect} (permissive : dialect.strict = false) :
    ∀ (chars : List Char) (place : Text.Position), ∃ tokens, Cut dialect place chars tokens
  | [], place => ⟨[], .ended place⟩
  | c :: tail, place => by
      cases visible : isBlank c with
      | true =>
          obtain ⟨tokens, later⟩ := exists_cut_permissive permissive tail (place.next c)
          exact ⟨tokens, .blank visible later⟩
      | false =>
          obtain ⟨chars, rest, whole, lexeme⟩ := exists_lexeme tail visible
            fun strict : dialect.strict = true => by simp [permissive] at strict
          have shorter : rest.length < (c :: tail).length := by
            rw [whole, List.length_append, List.length_cons]
            omega
          obtain ⟨tokens, later⟩ := exists_cut_permissive permissive rest (place.after (c :: chars))
          rw [whole]
          exact ⟨_, .token lexeme later⟩
termination_by chars => chars.length
decreasing_by
  · exact shorter
  · exact Nat.lt_succ_self tail.length

theorem lex_of_cut {dialect : Dialect} {text : String} {tokens : List Token}
    (cut : Cut dialect .start text.toList tokens) :
    lex dialect text =
      .ok (tokens ++ [⟨.endOfInput, "", Text.Position.start.after text.toList⟩]) := by
  rw [lex, Cursor.tokens, Cursor.ofText, Cursor.scan_of_cut cut]

end Reaching.Source
