import Reaching.Source.Text
import Reaching.Proofs.Grammar.Accepted
import Reaching.Proofs.Grammar.Respelling
import Reaching.Proofs.Lexing.Cut

/-! # Documents written by hand

A manuscript is a text as a person lays it out: words with blanks of any length before them, none
needed, and comments at the ends of lines.  The words are the tokens of a document, each in one of
the ways to write it; nothing says where blanks have to be, so names and operators may touch.

Main fact: a document can be read back from every manuscript of it, and its names come with the
places where they were written (`manuscript_read_back`). -/
set_option autoImplicit false

namespace Reaching.Source

/-! ## Layout -/

structure Gap where
  blanks : List Char
  comment : Option (List Char)
  blank : blanks.all isBlank = true
  oneLine : ∀ body ∈ comment, ∀ c ∈ body, c ≠ '\n'

def Gap.chars (gap : Gap) : List Char :=
  gap.blanks ++ gap.comment.elim [] ('#' :: ·)

inductive Written (dialect : Dialect) : Kind → List Char → Prop where
  | dataPoint {digits : List Char} (number : digits.all Char.isDigit = true) :
      Written dialect .dataPoint ('L' :: digits)
  | definition {digits : List Char} (number : digits.all Char.isDigit = true) :
      Written dialect .definition ('d' :: digits)
  | setOpen : Written dialect .setOpen ['{']
  | setClose : Written dialect .setClose ['}']
  | equals : Written dialect .equals ['=']
  | union : Written dialect .union ['U']
  | backslash : Written dialect .setDifference ['\\']
  | slash : Written dialect .setDifference ['/']
  | comma : Written dialect .comma [',']
  | newLine : Written dialect .newLine ['\n']
  | semicolon (ends : dialect.semicolons = true) : Written dialect .newLine [';']

structure Word (dialect : Dialect) where
  gap : Gap
  kind : Kind
  chars : List Char
  written : Written dialect kind chars
  ended : gap.comment.isSome = true → chars = ['\n']

def Word.full {dialect : Dialect} (word : Word dialect) : List Char :=
  word.gap.chars ++ word.chars

structure Manuscript (dialect : Dialect) where
  words : List (Word dialect)
  ending : Gap

namespace Manuscript

variable {dialect : Dialect}

def chars (manuscript : Manuscript dialect) : List Char :=
  manuscript.words.flatMap Word.full ++ manuscript.ending.chars

def text (manuscript : Manuscript dialect) : String :=
  String.ofList manuscript.chars

def tokensFrom (place : Text.Position) : List (Word dialect) → List Token
  | [] => []
  | word :: words =>
    ⟨word.kind, String.ofList word.chars, place.after word.gap.chars⟩ ::
      tokensFrom (place.after word.full) words

def tokens (manuscript : Manuscript dialect) : List Token :=
  tokensFrom .start manuscript.words

/-- The words spell the document, whatever places its names had before. -/
def Spells (manuscript : Manuscript dialect) (document : Document) : Prop :=
  ∃ tokens, document.SpelledBy tokens ∧
    tokens.map Token.word = manuscript.tokens.map Token.word

end Manuscript

/-! ## Words are lexemes -/

variable {dialect : Dialect} {kind : Kind} {chars rest : List Char} {tokens : List Token}
  {place : Text.Position}

theorem Written.stops (written : Written dialect kind chars) (rest : List Char) :
    Stops Char.isDigit (chars ++ rest) := by
  cases written <;> (rintro _ ⟨⟩; rfl)

/-- No blank is needed after a word, since none starts with a digit. -/
theorem Written.lexeme (written : Written dialect kind chars) (stops : Stops Char.isDigit rest) :
    Lexeme dialect kind chars rest := by
  cases written with
  | dataPoint number => exact .name rfl (Or.inl rfl) (List.all_eq_true.mp number) stops
  | definition number => exact .name rfl (Or.inr rfl) (List.all_eq_true.mp number) stops
  | semicolon ends => exact .single (by simp [Dialect.kindOf, ends]) (by decide) rfl fun _ => nofun
  | _ => exact .single rfl (by decide) rfl fun _ => nofun

/-! ## Manuscripts are cut into their words -/

theorem Gap.stops (gap : Gap) : Stops Char.isDigit gap.chars := by
  obtain ⟨blanks, comment, blank, oneLine⟩ := gap
  cases blanks with
  | nil =>
      cases comment with
      | none => nofun
      | some body =>
          rintro _ ⟨⟩
          rfl
  | cons c blanks =>
      rintro _ ⟨⟩
      have first : isBlank c = true := List.all_eq_true.mp blank c List.mem_cons_self
      simp only [isBlank, Bool.or_eq_true, decide_eq_true_eq] at first
      rcases first with (rfl | rfl) | rfl <;> rfl

/-- A gap adds comments only. -/
theorem Gap.exists_cut (gap : Gap) (later : Cut dialect (place.after gap.chars) rest tokens)
    (ended : gap.comment.isSome = true → Stops (· ≠ '\n') rest) :
    ∃ found, Cut dialect place (gap.chars ++ rest) found ∧
      found.filter (·.kind ≠ .comment) = tokens.filter (·.kind ≠ .comment) := by
  obtain ⟨blanks, comment, blank, oneLine⟩ := gap
  cases comment with
  | none =>
      simp only [chars, Option.elim_none, List.append_nil] at later ⊢
      exact ⟨tokens, .blanks blank later, rfl⟩
  | some body =>
      simp only [chars, Option.elim_some, Text.Position.after_append, List.append_assoc] at later ⊢
      have lexeme : Lexeme dialect .comment ('#' :: body) rest :=
        .comment (oneLine body rfl) (ended rfl)
      exact ⟨_, .blanks blank (.token lexeme later), by simp⟩

theorem stops_words (words : List (Word dialect)) (ending : Gap) :
    Stops Char.isDigit (words.flatMap Word.full ++ ending.chars) := by
  cases words with
  | nil => exact ending.stops
  | cons word words =>
      rw [List.flatMap_cons, Word.full, List.append_assoc, List.append_assoc]
      exact stops_append word.gap.stops (word.written.stops _)

theorem exists_cut_words (words : List (Word dialect)) (ending : Gap) (place : Text.Position) :
    ∃ found, Cut dialect place (words.flatMap Word.full ++ ending.chars) found ∧
      found.filter (·.kind ≠ .comment) =
        (Manuscript.tokensFrom place words).filter (·.kind ≠ .comment) := by
  induction words generalizing place with
  | nil =>
      have last : Cut dialect (place.after ending.chars) [] [] := .ended _
      have whole := ending.exists_cut last fun _ => nofun
      rwa [List.append_nil] at whole
  | cons word words ih =>
      obtain ⟨later, cut, kept⟩ := ih (place.after word.full)
      rw [Word.full, Text.Position.after_append] at cut
      have lexeme := word.written.lexeme (stops_words words ending)
      have ended : word.gap.comment.isSome = true →
          Stops (· ≠ '\n') (word.chars ++ (words.flatMap Word.full ++ ending.chars)) := by
        intro some
        rw [word.ended some]
        rintro _ ⟨⟩
        rfl
      obtain ⟨found, whole, same⟩ := word.gap.exists_cut (.token lexeme cut) ended
      refine ⟨found, ?_, ?_⟩
      · rw [List.flatMap_cons, List.append_assoc]
        simpa [Word.full] using whole
      · rw [same, Manuscript.tokensFrom, List.filter_cons, List.filter_cons, kept]

theorem Manuscript.exists_lex (manuscript : Manuscript dialect) :
    ∃ found, lex dialect manuscript.text = .ok found ∧
      significant found = significant manuscript.tokens := by
  obtain ⟨found, cut, kept⟩ := exists_cut_words manuscript.words manuscript.ending .start
  refine ⟨_, lex_of_cut (by rwa [text, String.toList_ofList]), ?_⟩
  rw [significant_closed found rfl, significant, kept]
  rfl

/-! ## Every document can be written -/

def Legible (dialect : Dialect) (tokens : List Token) : Prop :=
  ∀ token ∈ tokens, Written dialect token.kind token.lexeme.toList

theorem legible_nil : Legible dialect [] := fun _ member => absurd member List.not_mem_nil

theorem legible_cons {token : Token} :
    Legible dialect (token :: tokens) ↔
      Written dialect token.kind token.lexeme.toList ∧ Legible dialect tokens :=
  List.forall_mem_cons

theorem legible_append {before after : List Token} :
    Legible dialect (before ++ after) ↔ Legible dialect before ∧ Legible dialect after :=
  List.forall_mem_append

/-- Whatever has names that can be written is spelled by tokens that can be written. -/
def Writable {α : Type} (dialect : Dialect) (spells : α → List Token → Prop)
    (leaves : α → List Token) : Prop :=
  ∀ {value : α}, Legible dialect (leaves value) →
    ∃ tokens, spells value tokens ∧ Legible dialect tokens

theorem Continued.writable : Writable dialect Continued (List.map Name.definition) := by
  intro names
  induction names with
  | nil => exact fun _ => ⟨[], .done, legible_nil⟩
  | cons name names ih =>
      intro named
      obtain ⟨first, others⟩ := legible_cons.mp named
      obtain ⟨tokens, spelled, legible⟩ := ih others
      refine ⟨⟨.comma, ",", .start⟩ :: name.definition :: tokens, .comma name rfl spelled, ?_⟩
      exact legible_cons.mpr ⟨.comma, legible_cons.mpr ⟨first, legible⟩⟩

theorem SetLiteral.writable : Writable dialect SetLiteral.SpelledBy SetLiteral.leaves := by
  intro items named
  have closing : Legible dialect [⟨.setClose, "\x7d", .start⟩] :=
    legible_cons.mpr ⟨.setClose, legible_nil⟩
  cases items with
  | nil =>
      exact ⟨⟨.setOpen, "\x7b", .start⟩ :: [⟨.setClose, "\x7d", .start⟩], .empty rfl rfl,
        legible_cons.mpr ⟨.setOpen, closing⟩⟩
  | cons name names =>
      obtain ⟨first, others⟩ := legible_cons.mp named
      obtain ⟨tokens, spelled, legible⟩ := Continued.writable others
      refine ⟨⟨.setOpen, "\x7b", .start⟩ :: name.definition ::
        (tokens ++ [⟨.setClose, "\x7d", .start⟩]), .listed name rfl spelled rfl, ?_⟩
      have inside := legible_append.mpr ⟨legible, closing⟩
      exact legible_cons.mpr ⟨.setOpen, legible_cons.mpr ⟨first, inside⟩⟩

theorem Operand.writable : Writable dialect Operand.SpelledBy Operand.leaves := by
  intro value named
  cases value with
  | point name => exact ⟨[name.dataPoint], .point name, named⟩
  | set items =>
      obtain ⟨tokens, spelled, legible⟩ := SetLiteral.writable named
      exact ⟨tokens, .set spelled, legible⟩

theorem Expr.writable : Writable dialect Expr.SpelledBy Expr.leaves := by
  intro value
  induction value with
  | operand first =>
      intro named
      obtain ⟨tokens, spelled, legible⟩ := Operand.writable named
      exact ⟨tokens, .operand spelled, legible⟩
  | union left right ih =>
      intro named
      obtain ⟨first, last⟩ := legible_append.mp named
      obtain ⟨before, spelled, legible⟩ := ih first
      obtain ⟨after, also, clear⟩ := Operand.writable last
      refine ⟨before ++ ⟨.union, "U", .start⟩ :: after, .union spelled rfl also, ?_⟩
      exact legible_append.mpr ⟨legible, legible_cons.mpr ⟨.union, clear⟩⟩
  | difference left right ih =>
      intro named
      obtain ⟨first, last⟩ := legible_append.mp named
      obtain ⟨before, spelled, legible⟩ := ih first
      obtain ⟨after, also, clear⟩ := SetLiteral.writable last
      refine ⟨before ++ ⟨.setDifference, "\\", .start⟩ :: after, .difference spelled rfl also, ?_⟩
      exact legible_append.mpr ⟨legible, legible_cons.mpr ⟨.backslash, clear⟩⟩

theorem Equation.writable : Writable dialect Equation.SpelledBy Equation.leaves := by
  intro equation named
  obtain ⟨first, others⟩ := legible_cons.mp named
  obtain ⟨tokens, spelled, legible⟩ := Expr.writable others
  refine ⟨equation.target.dataPoint :: ⟨.equals, "=", .start⟩ :: tokens,
    .equals equation.target rfl spelled, ?_⟩
  exact legible_cons.mpr ⟨first, legible_cons.mpr ⟨.equals, legible⟩⟩

theorem Lines.exists_legible (first : Equation) (more : Document)
    (named : Legible dialect (Document.leaves (first :: more))) :
    ∃ tokens, Lines (first :: more) tokens ∧ Legible dialect tokens := by
  induction more generalizing first with
  | nil =>
      rw [Document.leaves, List.flatMap_singleton] at named
      obtain ⟨tokens, spelled, legible⟩ := Equation.writable named
      exact ⟨tokens, .last spelled, legible⟩
  | cons next more ih =>
      rw [Document.leaves, List.flatMap_cons] at named
      obtain ⟨one, others⟩ := legible_append.mp named
      obtain ⟨tokens, spelled, legible⟩ := Equation.writable one
      obtain ⟨later, lines, clear⟩ := ih next others
      refine ⟨tokens ++ ⟨.newLine, "\n", .start⟩ :: ([] ++ later),
        .more spelled rfl newLines_nil lines, ?_⟩
      exact legible_append.mpr ⟨legible, legible_cons.mpr ⟨.newLine, clear⟩⟩

def Word.bare (written : Written dialect kind chars) : Word dialect :=
  ⟨⟨[], none, rfl, nofun⟩, kind, chars, written, nofun⟩

theorem exists_words (legible : Legible dialect tokens) (place : Text.Position) :
    ∃ words : List (Word dialect),
      tokens.map Token.word = (Manuscript.tokensFrom place words).map Token.word := by
  induction tokens generalizing place with
  | nil => exact ⟨[], rfl⟩
  | cons token tokens ih =>
      obtain ⟨written, others⟩ := legible_cons.mp legible
      obtain ⟨words, same⟩ := ih others (place.after (Word.bare written).full)
      refine ⟨.bare written :: words, ?_⟩
      rw [Manuscript.tokensFrom, List.map_cons, List.map_cons, same]
      simp [Word.bare, Token.word]

theorem exists_manuscript {document : Document} (some : document ≠ [])
    (named : Legible dialect document.leaves) :
    ∃ manuscript : Manuscript dialect, manuscript.Spells document := by
  obtain ⟨first, more, rfl⟩ := List.exists_cons_of_ne_nil some
  obtain ⟨tokens, lines, legible⟩ := Lines.exists_legible first more named
  obtain ⟨words, same⟩ := exists_words legible .start
  refine ⟨⟨words, ⟨[], none, rfl, nofun⟩⟩, tokens, ?_, same⟩
  exact ⟨[], tokens, [], newLines_nil, lines, newLines_nil, (List.append_nil tokens).symm⟩

/-! ## Reading back -/

theorem ofText?_of_lex {text : String} {found : List Token} {document : Document}
    (lexed : lex dialect text = .ok found) (spelled : document.SpelledBy (significant found)) :
    Document.ofText? dialect text = .ok document := ofText?_eq_ok.mpr ⟨found, lexed, spelled⟩

theorem manuscript_read_back (dialect : Dialect) (document : Document) (some : document ≠ [])
    (named : Legible dialect document.leaves) :
    (∃ manuscript : Manuscript dialect, manuscript.Spells document) ∧
      ∀ manuscript : Manuscript dialect, manuscript.Spells document →
        ∃ read, Document.ofText? dialect manuscript.text = .ok read ∧
          read.toNode = document.toNode ∧
          read.leaves = manuscript.tokens.filter Token.isName := by
  refine ⟨exists_manuscript some named, fun manuscript ⟨tokens, spelled, same⟩ => ?_⟩
  obtain ⟨read, respelled, node⟩ := Document.respells spelled same.symm
  obtain ⟨found, lexed, kept⟩ := manuscript.exists_lex
  rw [significant_of_plain respelled.plain] at kept
  exact ⟨read, ofText?_of_lex lexed (kept ▸ respelled), node, respelled.leaves.symm⟩

/-- A comment, two equations that hardly have a blank in them and a last line that is not ended. -/
def scribbled : Manuscript ⟨true, true⟩ where
  words := [⟨⟨[' '], some ['!'], rfl, by simp⟩, .newLine, ['\n'], .newLine, fun _ => rfl⟩,
    .bare (@Written.dataPoint _ ['1'] rfl), .bare .equals, .bare .setOpen,
    .bare (@Written.definition _ ['1', '2'] rfl), .bare .comma, .bare (@Written.definition _ [] rfl),
    .bare .setClose, .bare .union, .bare (@Written.dataPoint _ ['2'] rfl), .bare .slash,
    .bare .setOpen, .bare .setClose, .bare (.semicolon rfl), .bare .newLine,
    .bare (@Written.dataPoint _ ['2'] rfl), .bare .equals, .bare (@Written.dataPoint _ ['1'] rfl)]
  ending := ⟨['\t', '\r'], some ['U'], rfl, by simp⟩

def intended : Document :=
  [⟨⟨"L1", default⟩, .difference (.union (.operand (.set [⟨"d12", default⟩, ⟨"d", default⟩]))
      (.point ⟨"L2", default⟩)) []⟩,
    ⟨⟨"L2", default⟩, .operand (.point ⟨"L1", default⟩)⟩]

theorem legible_intended : Legible ⟨true, true⟩ intended.leaves := by
  have leaves : intended.leaves = [⟨.dataPoint, "L1", default⟩, ⟨.definition, "d12", default⟩,
      ⟨.definition, "d", default⟩, ⟨.dataPoint, "L2", default⟩, ⟨.dataPoint, "L2", default⟩,
      ⟨.dataPoint, "L1", default⟩] := rfl
  rw [leaves]
  simp only [Legible, List.forall_mem_cons]
  exact ⟨.dataPoint rfl, .definition rfl, .definition rfl,
    .dataPoint rfl, .dataPoint rfl, .dataPoint rfl, nofun⟩

theorem scribbled_spells : scribbled.Spells intended := by
  have parsed : parse (scribbled.tokens.map fun token => ⟨token.kind, token.lexeme, default⟩) =
      .ok intended := by decide +kernel
  exact ⟨_, (parse_eq_ok _ _).mp parsed, by decide +kernel⟩

theorem manuscript_read_back_scribbled :
    scribbled.text = " #!\nL1=\x7bd12,d\x7dUL2/\x7b\x7d;\nL2=L1\t\r#U" ∧
      ∃ read, Document.ofText? ⟨true, true⟩ scribbled.text = .ok read ∧
        read.toNode = intended.toNode ∧
        read.leaves = [⟨.dataPoint, "L1", ⟨2, 1⟩⟩, ⟨.definition, "d12", ⟨2, 5⟩⟩,
          ⟨.definition, "d", ⟨2, 9⟩⟩, ⟨.dataPoint, "L2", ⟨2, 12⟩⟩, ⟨.dataPoint, "L2", ⟨3, 1⟩⟩,
          ⟨.dataPoint, "L1", ⟨3, 4⟩⟩] := by
  have readBack := manuscript_read_back ⟨true, true⟩ intended (by decide) legible_intended
  exact ⟨by decide +kernel, readBack.2 scribbled scribbled_spells⟩

end Reaching.Source
