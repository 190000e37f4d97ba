import Reaching.Proofs.Document.Listing
import Reaching.Proofs.Lexing.Joining
import Reaching.Proofs.Solver.Convergence
import Reaching.Proofs.Solver.Origin

/-! # The listed solution of a document can be read back

The names of a document that has been read are a letter and the ASCII digits after it, and a
solution of its system has no others: its data points are the targets and its points are definitions
that are written somewhere.  If none of them has more digits than a number may have, the solution can
be listed, and with equals signs in it the listing is a document again, which has that solution
(`Shown.readsBack`).

A text is read as one document only and a document has one solution, so two states of such names are
listed differently unless they hold the same (`ReadsBack.alike`).

Main fact: `solution_reads_back`. -/
set_option autoImplicit false

namespace Reaching

namespace Source

/-! ## Names of a text -/

variable {dialect : Dialect}

theorem Cut.written {place : Text.Position} {chars : List Char} {tokens : List Token}
    (cut : Cut dialect place chars tokens) :
    ∀ token ∈ tokens, token.isName = true → Written dialect token.kind token.lexeme.toList := by
  induction cut with
  | ended place => simp
  | blank _ _ ih => exact ih
  | @token place kind chars rest tokens lexeme _ ih =>
      refine List.forall_mem_cons.mpr ⟨fun named => ?_, ih⟩
      rw [String.toList_ofList]
      cases lexeme with
      | comment oneLine stops => exact absurd named Bool.false_ne_true
      | @name _ letter digits _ starts kinds number stops =>
          have initial := dialect.initial_of_kindOf letter
          rcases kinds with rfl | rfl
          · rw [initial.2.1 starts]
            exact .dataPoint (List.all_eq_true.mpr number)
          · rw [initial.2.2 starts]
            exact .definition (List.all_eq_true.mpr number)
      | single starts other visible known =>
          simp only [Token.isName, Bool.or_eq_true, decide_eq_true_eq] at named
          rcases named with rfl | rfl <;> exact absurd (by decide) other

/-- Each name of a document that has been read is written as it stands in the text. -/
theorem legible_of_ofText? {text : String} {document : Document}
    (read : Document.ofText? dialect text = .ok document) : Legible dialect document.leaves := by
  obtain ⟨found, lexed, spelled⟩ := ofText?_eq_ok.mp read
  obtain ⟨tokens, cut, rfl⟩ := exists_cut_of_lex lexed
  rw [significant_closed tokens rfl] at spelled
  intro token member
  rw [← spelled.leaves] at member
  obtain ⟨among, named⟩ := List.mem_filter.mp member
  have kept := (List.takeWhile_sublist _).subset among
  exact cut.written token (List.mem_of_mem_filter kept) named

theorem SetLiteral.added_toNode (items : SetLiteral) : items.toNode.added = items.texts := by
  rw [toNode, Node.added, texts]
  induction items with
  | nil => rfl
  | cons name rest ih =>
      rw [List.map_cons, Node.addedAll, ih]
      rfl

theorem SetLiteral.exists_leaf {items : SetLiteral} {d : String} (member : d ∈ items.texts) :
    ∃ name : Name, name.text = d ∧ name.definition ∈ items.leaves := by
  obtain ⟨name, among, rfl⟩ := List.mem_map.mp member
  exact ⟨name, rfl, List.mem_map_of_mem among⟩

theorem Operand.exists_leaf {operand : Operand} {d : String}
    (member : d ∈ operand.toNode.added) :
    ∃ name : Name, name.text = d ∧ name.definition ∈ operand.leaves := by
  cases operand with
  | point name => exact absurd member List.not_mem_nil
  | set items => exact SetLiteral.exists_leaf (items.added_toNode ▸ member)

/-- What an expression adds is written in it. -/
theorem Expr.exists_leaf {value : Expr} {d : String} (member : d ∈ value.toNode.added) :
    ∃ name : Name, name.text = d ∧ name.definition ∈ value.leaves := by
  induction value with
  | operand first => exact first.exists_leaf member
  | union left right ih =>
      rcases List.mem_append.mp member with first | last
      · obtain ⟨name, text, leaf⟩ := ih first
        exact ⟨name, text, List.mem_append_left _ leaf⟩
      · obtain ⟨name, text, leaf⟩ := right.exists_leaf last
        exact ⟨name, text, List.mem_append_right _ leaf⟩
  | difference left right ih =>
      obtain ⟨name, text, leaf⟩ := ih member
      exact ⟨name, text, List.mem_append_left _ leaf⟩

end Source

namespace Report

open Source (Dialect Document Name Written Legible)
open Solver (State Scheme Returns Closed)

/-! ## Names of a solution -/

theorem wellNamed_of_returns {dialect : Dialect} {text : String} {document : Document}
    (read : Document.ofText? dialect text = .ok document)
    (short : ∀ token ∈ document.leaves, token.lexeme.length ≤ Text.digitLimit + 1)
    {scheme : Scheme} {result : Solver.Result} (returns : Returns scheme document.system result) :
    WellNamed result.solution := by
  have legible := Source.legible_of_ofText? read
  have among : ∀ equation ∈ document, ∀ token ∈ equation.leaves, token ∈ document.leaves :=
    fun equation member token leaf => List.mem_flatMap.mpr ⟨equation, member, leaf⟩
  obtain ⟨closed, last, _, rfl⟩ := Solver.returns_iff_settlesAt.mp returns
  have starts : Solver.PassStart scheme document.system _ :=
    Solver.passStart_stateAfter closed last
  have only := starts.onlyAdded
  constructor
  · intro name member
    have target := (only.names name).mp member
    rw [Source.targets_system] at target
    obtain ⟨equation, listed, rfl⟩ := List.mem_map.mp target
    have leaf := among equation listed _ List.mem_cons_self
    exact numbered_of_written (legible _ leaf) rfl (.inl rfl) (short _ leaf)
  · intro name _ d member
    obtain ⟨equation, listed, added⟩ := only.added name d member
    obtain ⟨written, inside, rfl⟩ := List.mem_map.mp listed
    obtain ⟨definition, rfl, leaf⟩ := Source.Expr.exists_leaf added
    have leaf := among written inside _ (List.mem_cons_of_mem _ leaf)
    exact numbered_of_written (legible _ leaf) rfl (.inr rfl) (short _ leaf)

/-! ## Listings of solutions -/

theorem solutionText?_of_rows {state : State} {rows : List Row} (called : rows? state = .ok rows) :
    solutionText? state = .ok (listing rows) := by
  rw [solutionText?, called]
  rfl

/-- A text is read as one document, and that has one solution. -/
theorem ReadsBack.alike {text : String} {one other : State} (first : ReadsBack text one)
    (second : ReadsBack text other) : one.Alike other := by
  -- Any reader and any scheme would do, if it is the same for both.
  obtain ⟨read, whole, _, solved⟩ := first.exists_read ⟨false, true⟩
  obtain ⟨again, reread, _, solves⟩ := second.exists_read ⟨false, true⟩
  obtain rfl : read = again := Except.ok.inj (whole.symm.trans reread)
  obtain ⟨result, returns, alike, _⟩ := solved .inPlace
  obtain ⟨last, returned, like, _⟩ := solves .inPlace
  rw [Solver.returns_iff_solve] at returns returned
  obtain rfl : result = last := Option.some.inj (Except.ok.inj (returns.symm.trans returned))
  exact alike.symm.trans like

/-- The listing of a state without data points is no document. -/
theorem ReadsBack.ne_empty {text : String} {state : State} (back : ReadsBack text state) :
    text ≠ "" := by
  rintro rfl
  obtain ⟨read, whole, _⟩ := back.exists_read ⟨false, true⟩
  have refused : Document.ofText? ⟨false, true⟩ (asEquations "") =
      .error (.parse ⟨.noEquations, some ⟨.endOfInput, "", .start⟩⟩) := by decide +kernel
  rw [refused] at whole
  cases whole

theorem Shown.eq_nil {state : State} {rows : List Row} (shown : Shown state rows)
    (none : state.names = []) : rows = [] := by
  have names := shown.names
  rw [none, List.perm_nil] at names
  exact List.map_eq_nil_iff.mp names

theorem Shown.alike_of_listing_eq {one other : State} {rows others : List Row}
    (shown : Shown one rows) (also : Shown other others) (named : WellNamed one)
    (labelled : WellNamed other) (same : listing rows = listing others) : one.Alike other := by
  by_cases none : one.names = []
  · by_cases nothing : other.names = []
    · intro name
      rw [State.get?_of_notMem (none ▸ List.not_mem_nil),
        State.get?_of_notMem (nothing ▸ List.not_mem_nil)]
    · rw [shown.eq_nil none] at same
      exact absurd same.symm (also.readsBack labelled nothing).ne_empty
  · have back := shown.readsBack named none
    by_cases nothing : other.names = []
    · rw [also.eq_nil nothing] at same
      exact absurd same back.ne_empty
    · rw [same] at back
      exact back.alike (also.readsBack labelled nothing)

theorem solution_reads_back :
    (∀ (dialect : Dialect) (text : String) (document : Document),
      Document.ofText? dialect text = .ok document → Closed document.system →
        (∀ token ∈ document.leaves, token.lexeme.length ≤ Text.digitLimit + 1) →
          ∀ scheme, ∃ result listed, Returns scheme document.system result ∧
            solutionText? result.solution = .ok listed ∧ ReadsBack listed result.solution) ∧
    ∀ one other : State, WellNamed one → WellNamed other →
      ∃ text others, solutionText? one = .ok text ∧ solutionText? other = .ok others ∧
        (text = others → one.Alike other) := by
  constructor
  · intro dialect text document read closed short scheme
    obtain ⟨last, _, settles⟩ :=
      Solver.exists_settlesAt closed (Source.constantSubtrahends_system document) scheme
    have returns := Solver.returns_iff_settlesAt.mpr ⟨closed, last, settles, rfl⟩
    have named := wellNamed_of_returns read short returns
    obtain ⟨rows, called, shown⟩ := named.exists_rows
    refine ⟨_, listing rows, returns, solutionText?_of_rows called, ?_⟩
    apply shown.readsBack named
    obtain ⟨first, rest, rfl⟩ := List.exists_cons_of_ne_nil (Source.ne_nil_of_ofText? read)
    have present : first.target.text ∈ Solver.targets (Document.system (first :: rest)) := by
      rw [Source.targets_system]
      exact List.mem_cons_self
    exact List.ne_nil_of_mem ((Solver.mem_names_of_returns returns _).mpr present)
  · intro one other named labelled
    obtain ⟨rows, called, shown⟩ := named.exists_rows
    obtain ⟨others, listed, also⟩ := labelled.exists_rows
    exact ⟨_, _, solutionText?_of_rows called, solutionText?_of_rows listed,
      shown.alike_of_listing_eq also named labelled⟩

/-- Three data points in a circle, one of them without a number, and points that are numbered alike or
not at all. -/
def braided : Document :=
  [⟨⟨"L10", ⟨1, 1⟩⟩, .union (.operand (.point ⟨"L2", ⟨1, 7⟩⟩))
      (.set [⟨"d10", ⟨1, 13⟩⟩, ⟨"d1", ⟨1, 18⟩⟩, ⟨"d", ⟨1, 22⟩⟩])⟩,
    ⟨⟨"L2", ⟨2, 1⟩⟩, .union (.operand (.set [⟨"d01", ⟨2, 7⟩⟩])) (.point ⟨"L", ⟨2, 14⟩⟩)⟩,
    ⟨⟨"L", ⟨3, 1⟩⟩, .difference (.operand (.point ⟨"L10", ⟨3, 5⟩⟩)) [⟨"d1", ⟨3, 12⟩⟩]⟩]

def plaited : State :=
  .ofList [("L10", .ofList ["d", "d01", "d1", "d10"]), ("L2", .ofList ["d", "d01", "d10"]),
    ("L", .ofList ["d", "d01", "d10"])]

def combed : State :=
  .ofList [("L", .ofList ["d", "d01", "d10"]), ("L2", .ofList ["d", "d01", "d10"]),
    ("L10", .ofList ["d", "d01", "d1", "d10"])]

theorem solution_reads_back_braided :
    (Document.ofText? ⟨true, false⟩ "L10 = L2 U {d10, d1, d}\nL2 = {d01} U L\nL = L10 \\ {d1}" =
        .ok braided ∧ Closed braided.system ∧
      ∃ result, Returns .inPlace braided.system result ∧
        solutionText? result.solution =
          .ok "L: {d, d01, d10}\nL2: {d, d01, d10}\nL10: {d, d01, d1, d10}" ∧
        ReadsBack "L: {d, d01, d10}\nL2: {d, d01, d10}\nL10: {d, d01, d1, d10}"
          result.solution) ∧
    plaited ≠ combed ∧ solutionText? plaited = solutionText? combed ∧ plaited.Alike combed := by
  obtain ⟨reads, injective⟩ := solution_reads_back
  have read : Document.ofText? ⟨true, false⟩
      "L10 = L2 U {d10, d1, d}\nL2 = {d01} U L\nL = L10 \\ {d1}" = .ok braided := by
    decide +kernel
  have closed : Closed braided.system := by decide
  have short : ∀ token ∈ braided.leaves, token.lexeme.length ≤ Text.digitLimit + 1 := by
    decide +kernel
  have solved : (Solver.solve .inPlace braided.system).map (·.map Solver.Result.solution) =
      .ok (some plaited) := by decide +kernel
  have text : solutionText? plaited =
      .ok "L: {d, d01, d10}\nL2: {d, d01, d10}\nL10: {d, d01, d1, d10}" := by cbv
  have other : solutionText? combed = solutionText? plaited := by
    rw [text]
    cbv
  refine ⟨⟨read, closed, ?_⟩, by decide +kernel, other.symm, ?_⟩
  · obtain ⟨result, listed, returns, shown, back⟩ := reads _ _ braided read closed short .inPlace
    rw [Solver.returns_iff_solve.mp returns] at solved
    have solution : result.solution = plaited := Option.some.inj (Except.ok.inj solved)
    rw [solution, text] at shown
    obtain rfl := Except.ok.inj shown
    exact ⟨result, returns, solution ▸ text, back⟩
  · obtain ⟨one, second, shown, also, alike⟩ :=
      injective plaited combed (by decide +kernel) (by decide +kernel)
    rw [other, shown] at also
    exact alike (Except.ok.inj also)

end Report

end Reaching
