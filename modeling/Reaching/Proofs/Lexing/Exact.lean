import Reaching.Proofs.Lexing.Cut

/-! # A permissive reader cuts every text, and in one way only

`Layout` says, of pieces that make up a text, what a reader of the tokens can check without knowing
how they were found: blanks before each token, the place of each token counted from the characters
before it (`Position.ofPrefix`), one empty token at the end, and of every other token that it is
`Formed` as its kind is.  A name goes on as long as there are digits and a comment as long as its
line, so the form of a token depends on the text after it.

A text has one such layout, and its tokens are those that the lexer reads.  The layout is found from
the `Cut` of the text (`exists_layout`), and every layout gives a cut (`Layout.cut`).

Main fact: `permissive_lex_cuts_exactly`. -/
set_option autoImplicit false

namespace Reaching

namespace Text.Position

def ofPrefix (before : List Char) : Position :=
  ⟨1 + before.count '\n', 1 + (before.reverse.takeWhile (· ≠ '\n')).length⟩

theorem ofPrefix_concat (before : List Char) (c : Char) :
    ofPrefix (before ++ [c]) = (ofPrefix before).next c := by
  by_cases newline : c = '\n'
  · simp [ofPrefix, next, newline, Nat.add_assoc]
  · simp [ofPrefix, next, newline, Nat.add_comm]

theorem after_ofPrefix (before : List Char) : ∀ chars : List Char,
    (ofPrefix before).after chars = ofPrefix (before ++ chars) := by
  intro chars
  induction chars generalizing before with
  | nil => rw [after_nil, List.append_nil]
  | cons c chars ih => rw [after_cons, ← ofPrefix_concat, ih, List.append_assoc, List.singleton_append]

end Text.Position

namespace Source

open Text.Position (ofPrefix ofPrefix_concat after_ofPrefix)

/-! ## Tokens and what they are made of -/

def marks (semicolons : Bool) : Kind → List Char
  | .newLine => if semicolons then ['\n', ';'] else ['\n']
  | .setOpen => ['{']
  | .setClose => ['}']
  | .equals => ['=']
  | .union => ['U']
  | .setDifference => ['\\', '/']
  | .comma => [',']
  | _ => []

def meaningful (semicolons : Bool) : List Char :=
  [' ', '\t', '\r', '#', 'L', 'd'] ++ Kind.all.flatMap (marks semicolons)

/-- The characters are a token of the kind, if the rest comes after them. -/
inductive Formed (semicolons : Bool) : Kind → List Char → List Char → Prop where
  | comment {body rest : List Char} (oneLine : '\n' ∉ body) (whole : ∀ c ∈ rest.head?, c = '\n') :
      Formed semicolons .comment ('#' :: body) rest
  | dataPoint {digits rest : List Char} (number : digits.all Char.isDigit = true)
      (longest : ∀ c ∈ rest.head?, c.isDigit = false) :
      Formed semicolons .dataPoint ('L' :: digits) rest
  | definition {digits rest : List Char} (number : digits.all Char.isDigit = true)
      (longest : ∀ c ∈ rest.head?, c.isDigit = false) :
      Formed semicolons .definition ('d' :: digits) rest
  | mark {kind : Kind} {c : Char} {rest : List Char} (member : c ∈ marks semicolons kind) :
      Formed semicolons kind [c] rest
  | unknown {c : Char} {rest : List Char} (other : c ∉ meaningful semicolons) :
      Formed semicolons .unknown [c] rest
  | endOfInput : Formed semicolons .endOfInput [] []

section Forms

variable {semicolons : Bool} {kind : Kind} {chars rest : List Char}

theorem kindOf_of_mem_marks {c : Char} (member : c ∈ marks semicolons kind) :
    Dialect.kindOf ⟨false, semicolons⟩ c = kind ∧ isBlank c = false ∧
      kind ∉ [Kind.comment, .dataPoint, .definition] := by
  have marked : ∀ c ∈ marks semicolons kind, Dialect.kindOf ⟨false, semicolons⟩ c = kind ∧
      isBlank c = false ∧ kind ∉ [Kind.comment, .dataPoint, .definition] := by
    cases semicolons <;> cases kind <;> simp [marks, Dialect.kindOf, isBlank]
  exact marked c member

theorem mem_marks_of_kindOf {c : Char} (starts : Dialect.kindOf ⟨false, semicolons⟩ c = kind)
    (short : kind ∉ [Kind.comment, .dataPoint, .definition]) (known : kind ≠ .unknown) :
    c ∈ marks semicolons kind := by
  subst starts
  unfold Dialect.kindOf at short known ⊢
  cases semicolons <;> split <;> simp_all [marks]

theorem kindOf_eq_unknown_iff {c : Char} :
    (Dialect.kindOf ⟨false, semicolons⟩ c = .unknown ∧ isBlank c = false) ↔
      c ∉ meaningful semicolons := by
  constructor
  · rintro ⟨starts, visible⟩ member
    have known : ∀ c ∈ meaningful semicolons,
        Dialect.kindOf ⟨false, semicolons⟩ c ≠ .unknown ∨ isBlank c = true := by
      cases semicolons <;> simp [meaningful, Kind.all, marks, Dialect.kindOf, isBlank]
    rcases known c member with other | blank
    · exact other starts
    · exact Bool.false_ne_true (visible.symm.trans blank)
  · intro other
    refine ⟨?_, ?_⟩
    · unfold Dialect.kindOf
      cases semicolons <;> split <;> simp_all [meaningful, Kind.all, marks]
    · simp_all [meaningful, isBlank]

theorem Formed.lexeme (formed : Formed semicolons kind chars rest) (inside : kind ≠ .endOfInput) :
    Lexeme ⟨false, semicolons⟩ kind chars rest := by
  cases formed with
  | comment oneLine whole =>
      refine .comment (fun c member same => oneLine (same ▸ member)) fun c first => ?_
      simp [whole c first]
  | dataPoint number longest => exact .name rfl (.inl rfl) (List.all_eq_true.mp number) longest
  | definition number longest => exact .name rfl (.inr rfl) (List.all_eq_true.mp number) longest
  | mark member =>
      obtain ⟨starts, visible, short⟩ := kindOf_of_mem_marks member
      exact .single starts short visible nofun
  | unknown other =>
      obtain ⟨starts, visible⟩ := kindOf_eq_unknown_iff.mpr other
      exact .single starts (by decide) visible nofun
  | endOfInput => exact absurd rfl inside

theorem Lexeme.formed (lexeme : Lexeme ⟨false, semicolons⟩ kind chars rest) :
    Formed semicolons kind chars rest := by
  cases lexeme with
  | comment oneLine stops =>
      exact .comment (fun member => oneLine _ member rfl) fun c first => by simpa using stops c first
  | @name _ letter _ _ starts named number stops =>
      have initial := Dialect.initial_of_kindOf ⟨false, semicolons⟩ letter
      rcases named with rfl | rfl
      · obtain rfl : letter = 'L' := initial.2.1 starts
        exact .dataPoint (List.all_eq_true.mpr number) stops
      · obtain rfl : letter = 'd' := initial.2.2 starts
        exact .definition (List.all_eq_true.mpr number) stops
  | single starts other visible known =>
      by_cases unknown : kind = .unknown
      · subst unknown
        exact .unknown (kindOf_eq_unknown_iff.mp ⟨starts, visible⟩)
      · exact .mark (mem_marks_of_kindOf starts other unknown)

theorem Formed.eq_nil (formed : Formed semicolons .endOfInput chars rest) : chars = [] := by
  cases formed with
  | mark member => simp [marks] at member
  | endOfInput => rfl

theorem Lexeme.kind_ne (lexeme : Lexeme ⟨false, semicolons⟩ kind chars rest) :
    kind ≠ .endOfInput := by
  rintro rfl
  have formed := lexeme.formed
  obtain ⟨c, tail, rfl, _⟩ := lexeme.head
  exact List.cons_ne_nil c tail formed.eq_nil

end Forms

/-! ## Pieces of a text -/

structure Piece where
  blanks : List Char
  token : Token

def Piece.chars (piece : Piece) : List Char := piece.blanks ++ piece.token.lexeme.toList

/-- What holds of the pieces of a text of which `passed` stands before them. -/
structure Layout (semicolons : Bool) (passed : List Char) (pieces : List Piece) : Prop where
  blank : ∀ piece ∈ pieces, piece.blanks.all isBlank = true
  placed : ∀ before piece after, pieces = before ++ piece :: after →
    piece.token.place = ofPrefix (passed ++ before.flatMap Piece.chars ++ piece.blanks)
  formed : ∀ before piece after, pieces = before ++ piece :: after →
    Formed semicolons piece.token.kind piece.token.lexeme.toList (after.flatMap Piece.chars)
  ended : pieces.getLast?.map (·.token.kind) = some .endOfInput
  once : ∀ piece ∈ pieces.dropLast, piece.token.kind ≠ .endOfInput

section Layouts

variable {semicolons : Bool} {passed : List Char}

theorem forall_split_cons {P : List Piece → Piece → List Piece → Prop} {first : Piece}
    {later : List Piece} :
    (∀ before piece after, first :: later = before ++ piece :: after → P before piece after) ↔
      P [] first later ∧
        ∀ before piece after, later = before ++ piece :: after → P (first :: before) piece after := by
  constructor
  · intro holds
    refine ⟨holds [] first later rfl, fun before piece after split => ?_⟩
    exact holds (first :: before) piece after (by rw [split, List.cons_append])
  · rintro ⟨here, there⟩ before piece after split
    cases before with
    | nil =>
        obtain ⟨rfl, rfl⟩ := List.cons.inj split
        exact here
    | cons other before =>
        obtain ⟨rfl, rest⟩ := List.cons.inj split
        exact there before piece after rest

theorem layout_singleton {last : Piece} :
    Layout semicolons passed [last] ↔ last.blanks.all isBlank = true ∧
      last.token = ⟨.endOfInput, "", ofPrefix (passed ++ last.blanks)⟩ := by
  constructor
  · rintro ⟨blank, placed, formed, ended, once⟩
    refine ⟨blank last List.mem_cons_self, ?_⟩
    have kind : last.token.kind = .endOfInput := by simpa using ended
    have place := placed [] last [] rfl
    have nothing := Formed.eq_nil (kind ▸ formed [] last [] rfl)
    rw [String.toList_eq_nil_iff] at nothing
    rw [List.flatMap_nil, List.append_nil] at place
    rw [← kind, ← nothing, ← place]
  · rintro ⟨blank, token⟩
    constructor
    · simpa using blank
    · rw [forall_split_cons]
      simp [token]
    · rw [forall_split_cons]
      simp [token, Formed.endOfInput]
    · simp [token]
    · simp

theorem layout_cons {first next : Piece} {later : List Piece} :
    Layout semicolons passed (first :: next :: later) ↔
      (first.blanks.all isBlank = true ∧ first.token.place = ofPrefix (passed ++ first.blanks) ∧
        first.token.kind ≠ .endOfInput ∧
          Formed semicolons first.token.kind first.token.lexeme.toList
            ((next :: later).flatMap Piece.chars)) ∧
        Layout semicolons (passed ++ first.chars) (next :: later) := by
  constructor
  · rintro ⟨blank, placed, formed, ended, once⟩
    rw [List.forall_mem_cons] at blank
    rw [forall_split_cons, List.flatMap_nil, List.append_nil] at placed
    rw [forall_split_cons] at formed
    rw [List.getLast?_cons_cons] at ended
    rw [List.dropLast_cons_cons, List.forall_mem_cons] at once
    refine ⟨⟨blank.1, placed.1, once.1, formed.1⟩, blank.2, ?_, formed.2, ended, once.2⟩
    intro before piece after split
    rw [placed.2 before piece after split, List.flatMap_cons, ← List.append_assoc]
  · rintro ⟨⟨blank, placed, inside, formed⟩, others⟩
    constructor
    · exact List.forall_mem_cons.mpr ⟨blank, others.blank⟩
    · rw [forall_split_cons, List.flatMap_nil, List.append_nil]
      refine ⟨placed, fun before piece after split => ?_⟩
      rw [others.placed before piece after split, List.flatMap_cons, ← List.append_assoc]
    · exact forall_split_cons.mpr ⟨formed, others.formed⟩
    · rw [List.getLast?_cons_cons]
      exact others.ended
    · rw [List.dropLast_cons_cons]
      exact List.forall_mem_cons.mpr ⟨inside, others.once⟩

theorem Layout.cut : ∀ (pieces : List Piece) (passed : List Char), Layout semicolons passed pieces →
    ∃ tokens, Cut ⟨false, semicolons⟩ (ofPrefix passed) (pieces.flatMap Piece.chars) tokens ∧
      pieces.map Piece.token =
        tokens ++ [⟨.endOfInput, "", ofPrefix (passed ++ pieces.flatMap Piece.chars)⟩] := by
  intro pieces
  induction pieces with
  | nil =>
      intro passed layout
      have ended := layout.ended
      simp at ended
  | cons first later ih =>
      intro passed layout
      cases later with
      | nil =>
          obtain ⟨blank, token⟩ := layout_singleton.mp layout
          have chars : [first].flatMap Piece.chars = first.blanks := by simp [Piece.chars, token]
          have last : Cut ⟨false, semicolons⟩ ((ofPrefix passed).after first.blanks) [] [] := .ended _
          have cut := Cut.blanks blank last
          rw [List.append_nil] at cut
          rw [chars]
          exact ⟨[], cut, by simp [token]⟩
      | cons next later =>
          obtain ⟨⟨blank, placed, inside, formed⟩, others⟩ := layout_cons.mp layout
          obtain ⟨tokens, rest, same⟩ := ih _ others
          rw [Piece.chars, ← List.append_assoc, ← after_ofPrefix, ← after_ofPrefix] at rest
          rw [List.append_assoc] at same
          have token : first.token = ⟨first.token.kind, String.ofList first.token.lexeme.toList,
              (ofPrefix passed).after first.blanks⟩ := by
            rw [String.ofList_toList, after_ofPrefix, ← placed]
          have cut := Cut.blanks blank (.token (formed.lexeme inside) rest)
          rw [← token, ← List.append_assoc] at cut
          exact ⟨_, cut, congrArg (first.token :: ·) same⟩

theorem Layout.cons_blank {c : Char} {first : Piece} {later : List Piece} (blank : isBlank c = true)
    (layout : Layout semicolons (passed ++ [c]) (first :: later)) :
    Layout semicolons passed (⟨c :: first.blanks, first.token⟩ :: later) := by
  have all : ∀ others, others.all isBlank = true → (c :: others).all isBlank = true :=
    fun others blanks => by rw [List.all_cons, blank, blanks]; rfl
  have along : ∀ others, passed ++ [c] ++ others = passed ++ c :: others :=
    fun others => by rw [List.append_assoc, List.singleton_append]
  cases later with
  | nil =>
      obtain ⟨blanks, token⟩ := layout_singleton.mp layout
      exact layout_singleton.mpr ⟨all _ blanks, along _ ▸ token⟩
  | cons next later =>
      obtain ⟨⟨blanks, placed, inside, formed⟩, others⟩ := layout_cons.mp layout
      refine layout_cons.mpr ⟨⟨all _ blanks, along _ ▸ placed, inside, formed⟩, ?_⟩
      exact along first.chars ▸ others

theorem exists_layout {place : Text.Position} {chars : List Char} {tokens : List Token}
    (cut : Cut ⟨false, semicolons⟩ place chars tokens) : ∀ passed, place = ofPrefix passed →
      ∃ pieces, Layout semicolons passed pieces ∧ pieces.flatMap Piece.chars = chars ∧
        pieces.map Piece.token = tokens ++ [⟨.endOfInput, "", ofPrefix (passed ++ chars)⟩] := by
  induction cut with
  | ended place =>
      rintro passed rfl
      refine ⟨[⟨[], .endOfInput, "", ofPrefix passed⟩], ?_, rfl, by simp⟩
      exact layout_singleton.mpr ⟨rfl, by rw [List.append_nil]⟩
  | @blank place c rest tokens blank later ih =>
      rintro passed rfl
      obtain ⟨pieces, layout, whole, same⟩ := ih (passed ++ [c]) (ofPrefix_concat passed c).symm
      rw [List.append_assoc, List.singleton_append] at same
      cases pieces with
      | nil => simp at same
      | cons first others =>
          refine ⟨_, layout.cons_blank blank, ?_, same⟩
          rw [← whole]
          rfl
  | @token place kind chars rest tokens lexeme later ih =>
      rintro passed rfl
      obtain ⟨pieces, layout, whole, same⟩ := ih (passed ++ chars) (after_ofPrefix passed chars)
      cases pieces with
      | nil => simp at same
      | cons next others =>
          refine ⟨⟨[], kind, String.ofList chars, ofPrefix passed⟩ :: next :: others, ?_, ?_, ?_⟩
          · rw [layout_cons, Piece.chars, List.nil_append, List.append_nil, String.toList_ofList,
              whole]
            exact ⟨⟨rfl, rfl, lexeme.kind_ne, lexeme.formed⟩, layout⟩
          · rw [List.flatMap_cons, whole, Piece.chars, List.nil_append, String.toList_ofList]
          · rw [List.map_cons, same, List.append_assoc, List.cons_append]

end Layouts

/-- The tokens of a text, as the text itself determines them. -/
def CutsInto (semicolons : Bool) (text : String) (tokens : List Token) : Prop :=
  ∃ pieces, Layout semicolons [] pieces ∧ pieces.flatMap Piece.chars = text.toList ∧
    pieces.map Piece.token = tokens

theorem permissive_lex_cuts_exactly (semicolons : Bool) (text : String) :
    ∃ tokens, lex ⟨false, semicolons⟩ text = .ok tokens ∧ CutsInto semicolons text tokens ∧
      ∀ others, CutsInto semicolons text others → others = tokens := by
  have lexed : ∀ tokens, Cut ⟨false, semicolons⟩ (ofPrefix []) text.toList tokens →
      lex ⟨false, semicolons⟩ text = .ok (tokens ++ [⟨.endOfInput, "", ofPrefix text.toList⟩]) := by
    intro tokens cut
    have read := lex_of_cut cut
    rwa [show Text.Position.start = ofPrefix [] from rfl, after_ofPrefix] at read
  obtain ⟨tokens, cut⟩ : ∃ tokens, Cut ⟨false, semicolons⟩ (ofPrefix []) text.toList tokens :=
    exists_cut_permissive rfl text.toList (ofPrefix [])
  obtain ⟨pieces, layout, whole, same⟩ := exists_layout cut [] rfl
  refine ⟨_, lexed tokens cut, ⟨pieces, layout, whole, same⟩, ?_⟩
  rintro others ⟨found, laid, all, rfl⟩
  obtain ⟨again, recut, resame⟩ := laid.cut
  rw [all] at recut resame
  rw [resame]
  exact Except.ok.inj ((lexed again recut).symm.trans (lexed tokens cut))

end Source

end Reaching
