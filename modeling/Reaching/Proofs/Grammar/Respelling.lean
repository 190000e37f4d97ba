import Mathlib.Logic.Basic
import Reaching.Proofs.Grammar.Spelling

/-! # The same words at other places

What tokens spell depends on their places only in that the names keep them.  For each rule: if other
tokens have the same kinds and lexemes, they spell something with the same tree (`Respells`). -/
set_option autoImplicit false

namespace Reaching.Source

def Token.word (token : Token) : Kind × String := (token.kind, token.lexeme)

theorem Token.kind_of_word {token other : Token} {kind : Kind} (same : other.word = token.word)
    (is : token.kind = kind) : other.kind = kind :=
  (congrArg Prod.fst same).trans is

theorem Name.exists_dataPoint {name : Name} {other : Token}
    (same : other.word = name.dataPoint.word) :
    ∃ moved : Name, other = moved.dataPoint ∧ moved.text = name.text := by
  obtain ⟨kind, lexeme, place⟩ := other
  cases same
  exact ⟨⟨name.text, place⟩, rfl, rfl⟩

theorem Name.exists_definition {name : Name} {other : Token}
    (same : other.word = name.definition.word) :
    ∃ moved : Name, other = moved.definition ∧ moved.text = name.text := by
  obtain ⟨kind, lexeme, place⟩ := other
  cases same
  exact ⟨⟨name.text, place⟩, rfl, rfl⟩

/-- Tokens with the words of a spelling spell something with the same meaning. -/
def Respells {α β : Type} (spells : α → List Token → Prop) (meaning : α → β) : Prop :=
  ∀ {value : α} {tokens others : List Token}, spells value tokens →
    others.map Token.word = tokens.map Token.word →
      ∃ again, spells again others ∧ meaning again = meaning value

theorem Continued.respells :
    Respells Continued fun names => names.map fun name => Node.definition name.text := by
  intro names tokens others spelled
  induction spelled generalizing others with
  | done =>
      intro same
      rw [List.map_eq_nil_iff.mp same]
      exact ⟨[], .done, rfl⟩
  | comma name separates _ ih =>
      intro same
      obtain ⟨comma, tail, rfl, separator, named⟩ := List.map_eq_cons_iff.mp same
      obtain ⟨other, rest, rfl, defined, more⟩ := List.map_eq_cons_iff.mp named
      obtain ⟨moved, rfl, text⟩ := Name.exists_definition defined
      obtain ⟨again, spelled, nodes⟩ := ih more
      refine ⟨moved :: again, .comma moved (Token.kind_of_word separator separates) spelled, ?_⟩
      exact congrArg₂ List.cons (congrArg Node.definition text) nodes

theorem SetLiteral.respells : Respells SetLiteral.SpelledBy SetLiteral.toNode := by
  intro items tokens others spelled same
  cases spelled with
  | empty opens closes =>
      obtain ⟨opening, tail, rfl, opened, ending⟩ := List.map_eq_cons_iff.mp same
      obtain ⟨closing, rest, rfl, closed, none⟩ := List.map_eq_cons_iff.mp ending
      rw [List.map_eq_nil_iff.mp none]
      exact ⟨[], .empty (Token.kind_of_word opened opens) (Token.kind_of_word closed closes), rfl⟩
  | @listed first _ _ names _ opens more closes =>
      obtain ⟨opening, tail, rfl, opened, inside⟩ := List.map_eq_cons_iff.mp same
      obtain ⟨other, rest, rfl, defined, later⟩ := List.map_eq_cons_iff.mp inside
      obtain ⟨moved, rfl, text⟩ := Name.exists_definition defined
      rw [List.map_append] at later
      obtain ⟨inner, last, rfl, listed, ending⟩ := List.map_eq_append_iff.mp later
      obtain ⟨closing, rest, rfl, closed, none⟩ := List.map_eq_cons_iff.mp ending
      rw [List.map_eq_nil_iff.mp none]
      obtain ⟨again, spelled, nodes⟩ := Continued.respells more listed
      refine ⟨moved :: again, .listed moved (Token.kind_of_word opened opens) spelled
        (Token.kind_of_word closed closes), ?_⟩
      exact congrArg Node.set (congrArg₂ List.cons (congrArg Node.definition text) nodes)

theorem Operand.respells : Respells Operand.SpelledBy Operand.toNode := by
  intro value tokens others spelled same
  cases spelled with
  | point name =>
      obtain ⟨other, rest, rfl, pointed, none⟩ := List.map_eq_cons_iff.mp same
      obtain ⟨moved, rfl, text⟩ := Name.exists_dataPoint pointed
      rw [List.map_eq_nil_iff.mp none]
      exact ⟨.point moved, .point moved, congrArg Node.dataPoint text⟩
  | set spelled =>
      obtain ⟨again, spelled, node⟩ := SetLiteral.respells spelled same
      exact ⟨.set again, .set spelled, node⟩

theorem Expr.respells : Respells Expr.SpelledBy Expr.toNode := by
  intro value tokens others spelled
  induction spelled generalizing others with
  | operand spelled =>
      intro same
      obtain ⟨again, spelled, node⟩ := Operand.respells spelled same
      exact ⟨.operand again, .operand spelled, node⟩
  | union _ unites last ih =>
      intro same
      rw [List.map_append] at same
      obtain ⟨before, rest, rfl, first, later⟩ := List.map_eq_append_iff.mp same
      obtain ⟨operator, after, rfl, united, second⟩ := List.map_eq_cons_iff.mp later
      obtain ⟨left, spelled, node⟩ := ih first
      obtain ⟨right, also, other⟩ := Operand.respells last second
      exact ⟨.union left right, .union spelled (Token.kind_of_word united unites) also,
        congrArg₂ Node.union node other⟩
  | difference _ subtracts last ih =>
      intro same
      rw [List.map_append] at same
      obtain ⟨before, rest, rfl, first, later⟩ := List.map_eq_append_iff.mp same
      obtain ⟨operator, after, rfl, subtracted, second⟩ := List.map_eq_cons_iff.mp later
      obtain ⟨left, spelled, node⟩ := ih first
      obtain ⟨right, also, other⟩ := SetLiteral.respells last second
      exact ⟨.difference left right,
        .difference spelled (Token.kind_of_word subtracted subtracts) also,
        congrArg₂ Node.difference node other⟩

theorem Equation.respells : Respells Equation.SpelledBy Equation.toNode := by
  intro value tokens others spelled same
  cases spelled with
  | equals target equates spelled =>
      obtain ⟨other, tail, rfl, pointed, later⟩ := List.map_eq_cons_iff.mp same
      obtain ⟨sign, rest, rfl, equal, right⟩ := List.map_eq_cons_iff.mp later
      obtain ⟨moved, rfl, text⟩ := Name.exists_dataPoint pointed
      obtain ⟨again, spelled, node⟩ := Expr.respells spelled right
      refine ⟨⟨moved, again⟩, .equals moved (Token.kind_of_word equal equates) spelled, ?_⟩
      rw [toNode, toNode, text, node]

theorem NewLines.respelled {tokens others : List Token} (blank : NewLines tokens)
    (same : others.map Token.word = tokens.map Token.word) : NewLines others := by
  intro token member
  have word : token.word ∈ tokens.map Token.word := same ▸ List.mem_map_of_mem member
  obtain ⟨first, among, equal⟩ := List.mem_map.mp word
  exact Token.kind_of_word equal.symm (blank first among)

theorem Lines.respells : Respells Lines fun document => document.map Equation.toNode := by
  intro document tokens others lines
  induction lines generalizing others with
  | last spelled =>
      intro same
      obtain ⟨again, spelled, node⟩ := Equation.respells spelled same
      exact ⟨[again], .last spelled, congrArg (fun node => [node]) node⟩
  | more spelled ends blank _ ih =>
      intro same
      rw [List.map_append, List.map_cons, List.map_append] at same
      obtain ⟨body, tail, rfl, first, ending⟩ := List.map_eq_append_iff.mp same
      obtain ⟨newline, rest, rfl, ended, others⟩ := List.map_eq_cons_iff.mp ending
      obtain ⟨gap, later, rfl, between, second⟩ := List.map_eq_append_iff.mp others
      obtain ⟨equation, spelled, node⟩ := Equation.respells spelled first
      obtain ⟨again, lines, nodes⟩ := ih second
      exact ⟨equation :: again, .more spelled (Token.kind_of_word ended ends)
        (blank.respelled between) lines, congrArg₂ List.cons node nodes⟩

theorem Document.respells : Respells Document.SpelledBy Document.toNode := by
  intro document tokens others spelled same
  obtain ⟨before, body, after, blank, lines, trailing, rfl⟩ := spelled
  rw [List.map_append, List.map_append] at same
  obtain ⟨front, rest, rfl, first, later⟩ := List.map_eq_append_iff.mp same
  obtain ⟨middle, back, rfl, second, third⟩ := List.map_eq_append_iff.mp later
  obtain ⟨again, lines, nodes⟩ := Lines.respells lines second
  refine ⟨again, ⟨front, middle, back, blank.respelled first, lines, ?_, rfl⟩, ?_⟩
  · exact trailing.respelled third
  · exact congrArg (fun nodes => Node.root (.equations nodes)) nodes

end Reaching.Source
