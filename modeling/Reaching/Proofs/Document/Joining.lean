import Reaching.Proofs.Document.System
import Reaching.Proofs.Lexing.Joining

/-! # Documents joined by a newline

Two texts with a newline between them are read as one document, whose equations are those of the
first and then those of the second at places so many lines further down (`Document.lowered`).  The
newline ends the last equation of the first text, or it is one more of the newlines that stand there;
comments on either side are dropped, and those that end the first text stop at it.  A text without
equations, of newlines and comments only, adds nothing.

What the tokens spell is followed rule by rule: tokens that are moved down spell what they spelled,
moved down (`Document.SpelledBy.lowered`), and two documents with a newline between their tokens are
spelled one after the other (`Document.SpelledBy.join`).

Main fact: `documents_concatenate`. -/
set_option autoImplicit false

namespace Reaching.Source

/-! ## Moved down -/

def Name.lowered (lines : Nat) (name : Name) : Name := ⟨name.text, name.place.lowered lines⟩

def SetLiteral.lowered (lines : Nat) (items : SetLiteral) : SetLiteral :=
  items.map (Name.lowered lines)

def Operand.lowered (lines : Nat) : Operand → Operand
  | .point name => .point (name.lowered lines)
  | .set items => .set (items.lowered lines)

def Expr.lowered (lines : Nat) : Expr → Expr
  | .operand first => .operand (first.lowered lines)
  | .union left right => .union (left.lowered lines) (right.lowered lines)
  | .difference left right => .difference (left.lowered lines) (right.lowered lines)

def Equation.lowered (lines : Nat) (equation : Equation) : Equation :=
  ⟨equation.target.lowered lines, equation.value.lowered lines⟩

def Document.lowered (lines : Nat) (document : Document) : Document :=
  document.map (Equation.lowered lines)

variable {lines : Nat} {tokens others : List Token}

theorem Continued.lowered {names : List Name} (spelled : Continued names tokens) :
    Continued (names.map (Name.lowered lines)) (tokens.map (Token.lowered lines)) := by
  induction spelled with
  | done => exact .done
  | comma name separates _ ih => exact .comma (name.lowered lines) separates ih

theorem SetLiteral.SpelledBy.lowered {items : SetLiteral} (spelled : items.SpelledBy tokens) :
    (items.lowered lines).SpelledBy (tokens.map (Token.lowered lines)) := by
  cases spelled with
  | empty opens closes => exact .empty opens closes
  | listed first opens rest closes =>
      rw [List.map_cons, List.map_cons, List.map_append]
      exact .listed (first.lowered lines) opens rest.lowered closes

theorem Operand.SpelledBy.lowered {value : Operand} (spelled : value.SpelledBy tokens) :
    (value.lowered lines).SpelledBy (tokens.map (Token.lowered lines)) := by
  cases spelled with
  | point name => exact .point (name.lowered lines)
  | set spelled => exact .set spelled.lowered

theorem Expr.SpelledBy.lowered {value : Expr} (spelled : value.SpelledBy tokens) :
    (value.lowered lines).SpelledBy (tokens.map (Token.lowered lines)) := by
  induction spelled with
  | operand spelled => exact .operand spelled.lowered
  | union _ unites last ih =>
      rw [List.map_append, List.map_cons]
      exact .union ih unites last.lowered
  | difference _ subtracts last ih =>
      rw [List.map_append, List.map_cons]
      exact .difference ih subtracts last.lowered

theorem Equation.SpelledBy.lowered {equation : Equation} (spelled : equation.SpelledBy tokens) :
    (equation.lowered lines).SpelledBy (tokens.map (Token.lowered lines)) := by
  cases spelled with
  | equals target equates spelled =>
      exact .equals (target.lowered lines) equates spelled.lowered

theorem NewLines.lowered (blank : NewLines tokens) :
    NewLines (tokens.map (Token.lowered lines)) := by
  intro token member
  obtain ⟨first, among, rfl⟩ := List.mem_map.mp member
  exact blank first among

theorem Lines.lowered {document : Document} (spelled : Lines document tokens) :
    Lines (document.lowered lines) (tokens.map (Token.lowered lines)) := by
  induction spelled with
  | last spelled => exact .last spelled.lowered
  | more spelled ends blank _ ih =>
      rw [List.map_append, List.map_cons, List.map_append]
      exact .more spelled.lowered ends blank.lowered ih

theorem Document.SpelledBy.lowered {document : Document} (spelled : document.SpelledBy tokens) :
    (document.lowered lines).SpelledBy (tokens.map (Token.lowered lines)) := by
  obtain ⟨before, body, after, blank, written, trailing, rfl⟩ := spelled
  rw [List.map_append, List.map_append]
  exact ⟨_, _, _, blank.lowered, written.lowered, trailing.lowered, rfl⟩

/-! ## One after the other -/

theorem NewLines.append (blank : NewLines tokens) (also : NewLines others) :
    NewLines (tokens ++ others) := List.forall_mem_append.mpr ⟨blank, also⟩

variable {newline : Token} (ends : newline.kind = .newLine)

include ends

theorem Lines.join {gap : List Token} {one other : Document} (first : Lines one tokens)
    (blank : NewLines gap) (second : Lines other others) :
    Lines (one ++ other) (tokens ++ newline :: (gap ++ others)) := by
  induction first with
  | last spelled => exact .more spelled ends blank second
  | more spelled newline between _ ih =>
      have later := Lines.more spelled newline between ih
      simpa using later

theorem Document.SpelledBy.join {one other : Document} (first : one.SpelledBy tokens)
    (second : other.SpelledBy others) : (one ++ other).SpelledBy (tokens ++ newline :: others) := by
  obtain ⟨before, body, after, blank, written, trailing, rfl⟩ := first
  obtain ⟨gap, later, last, between, lines, ending, rfl⟩ := second
  refine ⟨before, body ++ (after ++ newline :: (gap ++ later)), last, blank, ?_, ending, by simp⟩
  cases after with
  | nil => exact written.join ends between lines
  | cons earlier after =>
      obtain ⟨ended, rest⟩ := newLines_cons.mp trailing
      have gap := rest.append (newLines_cons.mpr ⟨ends, between⟩)
      simpa using written.join ended gap lines

theorem Document.SpelledBy.join_newLines {document : Document} (first : document.SpelledBy tokens)
    (blank : NewLines others) : document.SpelledBy (tokens ++ newline :: others) := by
  obtain ⟨before, body, after, leading, written, trailing, rfl⟩ := first
  have whole := trailing.append (newLines_cons.mpr ⟨ends, blank⟩)
  exact ⟨before, body, _, leading, written, whole, by simp⟩

theorem Document.SpelledBy.newLines_join {document : Document} (blank : NewLines tokens)
    (second : document.SpelledBy others) : document.SpelledBy (tokens ++ newline :: others) := by
  obtain ⟨before, body, after, leading, written, trailing, rfl⟩ := second
  have whole := blank.append (newLines_cons.mpr ⟨ends, leading⟩)
  exact ⟨_, body, after, whole, written, trailing, by simp⟩

omit ends

/-! ## Read from a text -/

theorem significant_lowered (lines : Nat) (tokens : List Token) :
    significant (tokens.map (Token.lowered lines)) =
      (significant tokens).map (Token.lowered lines) := by
  rw [significant, significant, List.filter_map, List.takeWhile_map]
  rfl

def Bare (tokens : List Token) : Prop :=
  ∀ token ∈ tokens, token.kind ∈ [Kind.newLine, .comment, .endOfInput]

theorem Bare.newLines (bare : Bare tokens) : NewLines (significant tokens) := by
  intro token member
  have among := List.mem_filter.mp ((List.takeWhile_subset _) member)
  have plain := plain_significant tokens token member
  have known := bare token among.1
  simp only [List.mem_cons, List.not_mem_nil, or_false, not_or] at known plain
  exact known.resolve_right fun other => other.elim plain.1 plain.2

/-- What two texts and the newline between them are read as, by a reader that can read both. -/
structure Concatenates (dialect : Dialect) (one other : String) : Prop where
  lexed : ∀ first second, lex dialect one = .ok first → lex dialect other = .ok second →
    ∃ tokens place, first = tokens ++ [⟨.endOfInput, "", place⟩] ∧
      lex dialect (joined one other) = .ok (tokens ++ ⟨.newLine, "\n", place⟩ ::
        second.map (Token.lowered (1 + one.toList.count '\n')))
  both : ∀ first second, Document.ofText? dialect one = .ok first →
    Document.ofText? dialect other = .ok second →
      Document.ofText? dialect (joined one other) =
        .ok (first ++ second.lowered (1 + one.toList.count '\n'))
  firstOnly : ∀ first bare, Document.ofText? dialect one = .ok first →
    lex dialect other = .ok bare → Bare bare →
      Document.ofText? dialect (joined one other) = .ok first
  secondOnly : ∀ bare second, lex dialect one = .ok bare → Bare bare →
    Document.ofText? dialect other = .ok second →
      Document.ofText? dialect (joined one other) =
        .ok (second.lowered (1 + one.toList.count '\n'))

theorem documents_concatenate (dialect : Dialect) (one other : String) :
    Concatenates dialect one other := by
  have found : ∀ {first second}, lex dialect one = .ok first → lex dialect other = .ok second →
      ∃ found newline, lex dialect (joined one other) = .ok found ∧ newline.kind = .newLine ∧
        significant found = significant first ++ newline ::
          (significant second).map (Token.lowered (1 + one.toList.count '\n')) := by
    intro first second lexed also
    obtain ⟨tokens, place, rfl, goes, whole⟩ := lex_joined lexed also
    refine ⟨_, ⟨.newLine, "\n", place⟩, whole, rfl, ?_⟩
    have blank : NewLines [⟨.newLine, "\n", place⟩] := newLines_cons.mpr ⟨rfl, newLines_nil⟩
    rw [significant_append_of_goesOn goes, ← List.singleton_append, significant_append blank.plain,
      significant_closed tokens rfl, significant_lowered, List.singleton_append]
  constructor
  · intro first second lexed also
    obtain ⟨tokens, place, split, _, whole⟩ := lex_joined lexed also
    exact ⟨tokens, place, split, whole⟩
  · intro first second read also
    obtain ⟨tokens, lexed, spelled⟩ := ofText?_eq_ok.mp read
    obtain ⟨others, later, follows⟩ := ofText?_eq_ok.mp also
    obtain ⟨all, newline, whole, ends, same⟩ := found lexed later
    exact ofText?_eq_ok.mpr ⟨all, whole, same ▸ spelled.join ends follows.lowered⟩
  · intro first bare read later blank
    obtain ⟨tokens, lexed, spelled⟩ := ofText?_eq_ok.mp read
    obtain ⟨all, newline, whole, ends, same⟩ := found lexed later
    exact ofText?_eq_ok.mpr ⟨all, whole, same ▸ spelled.join_newLines ends blank.newLines.lowered⟩
  · intro bare second lexed blank also
    obtain ⟨others, later, follows⟩ := ofText?_eq_ok.mp also
    obtain ⟨all, newline, whole, ends, same⟩ := found lexed later
    refine ofText?_eq_ok.mpr ⟨all, whole, same ▸ ?_⟩
    exact Document.SpelledBy.newLines_join ends blank.newLines follows.lowered

def remarked : Document :=
  [⟨⟨"L1", ⟨1, 1⟩⟩, .union (.operand (.set [⟨"d1", ⟨1, 7⟩⟩])) (.point ⟨"L2", ⟨1, 13⟩⟩)⟩]

def spaced : Document := [⟨⟨"L2", ⟨2, 1⟩⟩, .operand (.point ⟨"L1", ⟨2, 6⟩⟩)⟩]

theorem documents_concatenate_remarked :
    Document.ofText? ⟨true, true⟩ "L1 = \x7bd1\x7d U L2 # first" = .ok remarked ∧
      Document.ofText? ⟨true, true⟩ ";\nL2 = L1" = .ok spaced ∧
      Document.ofText? ⟨true, true⟩ (joined "L1 = \x7bd1\x7d U L2 # first" ";\nL2 = L1") =
        .ok (remarked ++ [⟨⟨"L2", ⟨3, 1⟩⟩, .operand (.point ⟨"L1", ⟨3, 6⟩⟩)⟩]) := by
  have first : Document.ofText? ⟨true, true⟩ "L1 = \x7bd1\x7d U L2 # first" = .ok remarked := by
    decide +kernel
  have second : Document.ofText? ⟨true, true⟩ ";\nL2 = L1" = .ok spaced := by decide +kernel
  exact ⟨first, second, (documents_concatenate _ _ _).both remarked spaced first second⟩

end Reaching.Source
