import Reaching.Source.Stream

/-! # Which tokens spell a document

The grammar as relations between what is written and the tokens that write it, one for each rule:

    document   = newlines equation { newlines equation } newlines
    equation   = data point "=" expression
    expression = operand | expression union operand | expression difference set
    operand    = set | data point
    set        = "open" [ definition { "," definition } ] "close"

The tokens of names are determined by the document; of the other tokens only the kind counts.
There is at least one newline between two equations, and there may be any number before the first
and after the last.

Main facts: among tokens that spell a document there is no comment and none that ends the input
(`Document.SpelledBy.plain`), and its leaves are the names among them, in order
(`Document.SpelledBy.leaves`). -/
set_option autoImplicit false

namespace Reaching.Source

/-! ## The rules -/

inductive Continued : List Name → List Token → Prop where
  | done : Continued [] []
  | comma (name : Name) {comma : Token} {names : List Name} {tokens : List Token}
      (separates : comma.kind = .comma) (rest : Continued names tokens) :
      Continued (name :: names) (comma :: name.definition :: tokens)

inductive SetLiteral.SpelledBy : SetLiteral → List Token → Prop where
  | empty {opening closing : Token} (opens : opening.kind = .setOpen)
      (closes : closing.kind = .setClose) : SpelledBy [] [opening, closing]
  | listed (first : Name) {opening closing : Token} {names : List Name} {tokens : List Token}
      (opens : opening.kind = .setOpen) (rest : Continued names tokens)
      (closes : closing.kind = .setClose) :
      SpelledBy (first :: names) (opening :: first.definition :: (tokens ++ [closing]))

inductive Operand.SpelledBy : Operand → List Token → Prop where
  | point (name : Name) : SpelledBy (.point name) [name.dataPoint]
  | set {items : SetLiteral} {tokens : List Token} (spelled : items.SpelledBy tokens) :
      SpelledBy (.set items) tokens

inductive Expr.SpelledBy : Expr → List Token → Prop where
  | operand {first : Operand} {tokens : List Token} (spelled : first.SpelledBy tokens) :
      SpelledBy (.operand first) tokens
  | union {left : Expr} {right : Operand} {operator : Token} {before after : List Token}
      (spelled : SpelledBy left before) (unites : operator.kind = .union)
      (last : right.SpelledBy after) : SpelledBy (.union left right) (before ++ operator :: after)
  | difference {left : Expr} {right : SetLiteral} {operator : Token} {before after : List Token}
      (spelled : SpelledBy left before) (subtracts : operator.kind = .setDifference)
      (last : right.SpelledBy after) :
      SpelledBy (.difference left right) (before ++ operator :: after)

inductive Equation.SpelledBy : Equation → List Token → Prop where
  | equals (target : Name) {value : Expr} {sign : Token} {tokens : List Token}
      (equates : sign.kind = .equals) (spelled : value.SpelledBy tokens) :
      SpelledBy ⟨target, value⟩ (target.dataPoint :: sign :: tokens)

def NewLines (tokens : List Token) : Prop := ∀ token ∈ tokens, token.kind = .newLine

inductive Lines : Document → List Token → Prop where
  | last {equation : Equation} {tokens : List Token} (spelled : equation.SpelledBy tokens) :
      Lines [equation] tokens
  | more {equation : Equation} {document : Document} {newline : Token}
      {tokens gap later : List Token} (spelled : equation.SpelledBy tokens)
      (ends : newline.kind = .newLine) (blank : NewLines gap) (rest : Lines document later) :
      Lines (equation :: document) (tokens ++ newline :: (gap ++ later))

def Document.SpelledBy (document : Document) (tokens : List Token) : Prop :=
  ∃ before body after, NewLines before ∧ Lines document body ∧ NewLines after ∧
    tokens = before ++ (body ++ after)

theorem newLines_nil : NewLines [] := fun _ member => absurd member List.not_mem_nil

theorem newLines_cons {token : Token} {tokens : List Token} :
    NewLines (token :: tokens) ↔ token.kind = .newLine ∧ NewLines tokens :=
  List.forall_mem_cons

/-! ## The first token -/

theorem SetLiteral.SpelledBy.head {items : SetLiteral} {tokens : List Token}
    (spelled : items.SpelledBy tokens) :
    ∃ opening rest, tokens = opening :: rest ∧ opening.kind = .setOpen := by
  cases spelled with
  | empty opens closes => exact ⟨_, _, rfl, opens⟩
  | listed first opens rest closes => exact ⟨_, _, rfl, opens⟩

theorem Operand.SpelledBy.head {operand : Operand} {tokens : List Token}
    (spelled : operand.SpelledBy tokens) :
    ∃ token rest, tokens = token :: rest ∧ (token.kind = .setOpen ∨ token.kind = .dataPoint) := by
  cases spelled with
  | point name => exact ⟨_, _, rfl, Or.inr rfl⟩
  | set spelled =>
      obtain ⟨opening, rest, same, opens⟩ := spelled.head
      exact ⟨opening, rest, same, Or.inl opens⟩

theorem Equation.SpelledBy.head {equation : Equation} {tokens : List Token}
    (spelled : equation.SpelledBy tokens) :
    ∃ rest, tokens = equation.target.dataPoint :: rest := by
  cases spelled with
  | equals target equates spelled => exact ⟨_, rfl⟩

theorem Lines.head {document : Document} {tokens : List Token} (lines : Lines document tokens) :
    ∃ target rest, tokens = Name.dataPoint target :: rest := by
  cases lines with
  | last spelled =>
      obtain ⟨rest, rfl⟩ := spelled.head
      exact ⟨_, _, rfl⟩
  | more spelled ends blank lines =>
      obtain ⟨rest, rfl⟩ := spelled.head
      exact ⟨_, _, rfl⟩

/-! ## Names among the tokens -/

def Token.isName (token : Token) : Bool :=
  token.kind = .dataPoint || token.kind = .definition

@[simp] theorem Name.kind_dataPoint (name : Name) : name.dataPoint.kind = .dataPoint := rfl

@[simp] theorem Name.kind_definition (name : Name) : name.definition.kind = .definition := rfl

@[simp] theorem Name.isName_dataPoint (name : Name) : name.dataPoint.isName = true := rfl

@[simp] theorem Name.isName_definition (name : Name) : name.definition.isName = true := rfl

theorem Token.isName_of_kind {token : Token} {kind : Kind} (same : token.kind = kind)
    (other : (kind = .dataPoint || kind = .definition) = false) : token.isName = false := by
  rw [isName, same]
  exact other

theorem Continued.leaves {names : List Name} {tokens : List Token}
    (spelled : Continued names tokens) : tokens.filter Token.isName = names.map Name.definition := by
  induction spelled with
  | done => rfl
  | comma name separates _ ih =>
      have skipped := Token.isName_of_kind separates rfl
      simp [List.filter_cons, skipped, ih]

theorem SetLiteral.SpelledBy.leaves {items : SetLiteral} {tokens : List Token}
    (spelled : items.SpelledBy tokens) : tokens.filter Token.isName = items.leaves := by
  cases spelled with
  | empty opens closes =>
      simp [Token.isName_of_kind opens rfl, Token.isName_of_kind closes rfl, SetLiteral.leaves]
  | listed first opens rest closes =>
      simp [List.filter_cons, Token.isName_of_kind opens rfl, Token.isName_of_kind closes rfl,
        SetLiteral.leaves, rest.leaves]

theorem Operand.SpelledBy.leaves {operand : Operand} {tokens : List Token}
    (spelled : operand.SpelledBy tokens) : tokens.filter Token.isName = operand.leaves := by
  cases spelled with
  | point name => simp [Operand.leaves]
  | set spelled => exact spelled.leaves

theorem Expr.SpelledBy.leaves {value : Expr} {tokens : List Token}
    (spelled : value.SpelledBy tokens) : tokens.filter Token.isName = value.leaves := by
  induction spelled with
  | operand spelled => exact spelled.leaves
  | union _ unites last ih =>
      simp [Token.isName_of_kind unites rfl, ih, last.leaves, Expr.leaves]
  | difference _ subtracts last ih =>
      simp [Token.isName_of_kind subtracts rfl, ih, last.leaves, Expr.leaves]

theorem Equation.SpelledBy.leaves {equation : Equation} {tokens : List Token}
    (spelled : equation.SpelledBy tokens) : tokens.filter Token.isName = equation.leaves := by
  cases spelled with
  | equals target equates spelled =>
      simp [List.filter_cons, Token.isName_of_kind equates rfl, spelled.leaves, Equation.leaves]

theorem NewLines.leaves {tokens : List Token} (blank : NewLines tokens) :
    tokens.filter Token.isName = [] := by
  rw [List.filter_eq_nil_iff]
  intro token member
  rw [Token.isName_of_kind (blank token member) rfl]
  exact Bool.false_ne_true

theorem Lines.leaves {document : Document} {tokens : List Token} (lines : Lines document tokens) :
    tokens.filter Token.isName = document.leaves := by
  induction lines with
  | last spelled => simp [spelled.leaves, Document.leaves]
  | more spelled ends blank _ ih =>
      simp [Token.isName_of_kind ends rfl, spelled.leaves, blank.leaves, ih, Document.leaves]

theorem Document.SpelledBy.leaves {document : Document} {tokens : List Token}
    (spelled : document.SpelledBy tokens) : tokens.filter Token.isName = document.leaves := by
  obtain ⟨before, body, after, blank, lines, trailing, rfl⟩ := spelled
  simp [blank.leaves, lines.leaves, trailing.leaves]

theorem Lines.ne_nil {document : Document} {tokens : List Token} (lines : Lines document tokens) :
    document ≠ [] := by
  cases lines <;> exact List.cons_ne_nil _ _

theorem Document.SpelledBy.ne_nil {document : Document} {tokens : List Token}
    (spelled : document.SpelledBy tokens) : document ≠ [] := by
  obtain ⟨before, body, after, blank, lines, trailing, rfl⟩ := spelled
  exact lines.ne_nil

/-! ## No comments and no end of the input -/

def GoesOn (tokens : List Token) : Prop := ∀ token ∈ tokens, token.kind ≠ .endOfInput

def Plain (tokens : List Token) : Prop :=
  ∀ token ∈ tokens, token.kind ∉ [Kind.comment, .endOfInput]

theorem Plain.goesOn {tokens : List Token} (plain : Plain tokens) : GoesOn tokens := by
  intro token member ends
  apply plain token member
  rw [ends]
  decide

theorem plain_cons {token : Token} {tokens : List Token} {kind : Kind} (same : token.kind = kind)
    (other : kind ∉ [Kind.comment, .endOfInput]) (rest : Plain tokens) : Plain (token :: tokens) := by
  intro found member
  rcases List.mem_cons.mp member with rfl | later
  · rw [same]
    exact other
  · exact rest found later

theorem plain_append {before after : List Token} (first : Plain before) (second : Plain after) :
    Plain (before ++ after) := by
  intro token member
  exact (List.mem_append.mp member).elim (first token) (second token)

theorem plain_nil : Plain [] := fun _ member => absurd member List.not_mem_nil

theorem Continued.plain {names : List Name} {tokens : List Token}
    (spelled : Continued names tokens) : Plain tokens := by
  induction spelled with
  | done => exact plain_nil
  | comma name separates _ ih =>
      exact plain_cons separates (by decide) (plain_cons name.kind_definition (by decide) ih)

theorem SetLiteral.SpelledBy.plain {items : SetLiteral} {tokens : List Token}
    (spelled : items.SpelledBy tokens) : Plain tokens := by
  cases spelled with
  | empty opens closes =>
      exact plain_cons opens (by decide) (plain_cons closes (by decide) plain_nil)
  | listed first opens rest closes =>
      refine plain_cons opens (by decide) (plain_cons first.kind_definition (by decide) ?_)
      exact plain_append rest.plain (plain_cons closes (by decide) plain_nil)

theorem Operand.SpelledBy.plain {operand : Operand} {tokens : List Token}
    (spelled : operand.SpelledBy tokens) : Plain tokens := by
  cases spelled with
  | point name => exact plain_cons name.kind_dataPoint (by decide) plain_nil
  | set spelled => exact spelled.plain

theorem Expr.SpelledBy.plain {value : Expr} {tokens : List Token}
    (spelled : value.SpelledBy tokens) : Plain tokens := by
  induction spelled with
  | operand spelled => exact spelled.plain
  | union _ unites last ih => exact plain_append ih (plain_cons unites (by decide) last.plain)
  | difference _ subtracts last ih =>
      exact plain_append ih (plain_cons subtracts (by decide) last.plain)

theorem Equation.SpelledBy.plain {equation : Equation} {tokens : List Token}
    (spelled : equation.SpelledBy tokens) : Plain tokens := by
  cases spelled with
  | equals target equates spelled =>
      exact plain_cons target.kind_dataPoint (by decide) (plain_cons equates (by decide) spelled.plain)

theorem NewLines.plain {tokens : List Token} (blank : NewLines tokens) : Plain tokens := by
  intro token member
  rw [blank token member]
  decide

theorem Lines.plain {document : Document} {tokens : List Token} (lines : Lines document tokens) :
    Plain tokens := by
  induction lines with
  | last spelled => exact spelled.plain
  | more spelled ends blank _ ih =>
      exact plain_append spelled.plain (plain_cons ends (by decide) (plain_append blank.plain ih))

theorem Document.SpelledBy.plain {document : Document} {tokens : List Token}
    (spelled : document.SpelledBy tokens) : Plain tokens := by
  obtain ⟨before, body, after, blank, lines, trailing, rfl⟩ := spelled
  exact plain_append blank.plain (plain_append lines.plain trailing.plain)

end Reaching.Source
