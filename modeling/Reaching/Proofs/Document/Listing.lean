import Reaching.Proofs.Document.KillFree
import Reaching.Proofs.Document.Manuscript
import Reaching.Proofs.Report.Listing
import Reaching.Proofs.Solver.Alike
import Reaching.Proofs.Solver.Constant

/-! # A listing is a document

The row of a data point is an equation but for its colon: with an equals sign in its place
(`asEquation`) it gives the data point a set with just its points.  So the rows of a state make a
document, in which each data point is defined once and refers to no other.

A listing is read from its end.  `CutsTo` says of the characters that are left that they are cut into
given words, at whatever place they begin, and each word that is put in front of them is one more.

Main fact: `Shown.readsBack`. -/
set_option autoImplicit false

namespace Reaching.Report

open Source (Dialect Document Name Token Kind Written Cut Stops Continued Lines)
open Solver (State Scheme Returns Closed)

/-! ## Rows as equations -/

def Row.equation (row : Row) : Source.Equation :=
  ⟨⟨row.name, .start⟩, .operand (.set (row.points.map (⟨·, .start⟩)))⟩

def laterTokens (names : List Name) : List Token :=
  names.flatMap fun name => [⟨.comma, ",", .start⟩, name.definition]

def setTokens : List Name → List Token
  | [] => [⟨.setOpen, "\x7b", .start⟩, ⟨.setClose, "\x7d", .start⟩]
  | first :: more =>
    ⟨.setOpen, "\x7b", .start⟩ :: first.definition ::
      (laterTokens more ++ [⟨.setClose, "\x7d", .start⟩])

def Row.tokens (row : Row) : List Token :=
  ⟨.dataPoint, row.name, .start⟩ :: ⟨.equals, "=", .start⟩ ::
    setTokens (row.points.map (⟨·, .start⟩))

def rowsTokens : List Row → List Token
  | [] => []
  | [row] => row.tokens
  | row :: next :: rest => row.tokens ++ ⟨.newLine, "\n", .start⟩ :: rowsTokens (next :: rest)

theorem continued_laterTokens (names : List Name) : Continued names (laterTokens names) := by
  induction names with
  | nil => exact .done
  | cons name names ih => exact .comma name rfl ih

theorem Row.spelledBy_tokens (row : Row) : row.equation.SpelledBy row.tokens := by
  refine .equals ⟨row.name, .start⟩ rfl (.operand (.set ?_))
  cases row.points.map (Name.mk · .start) with
  | nil => exact .empty rfl rfl
  | cons first more => exact .listed first rfl (continued_laterTokens more) rfl

theorem lines_rowsTokens (row : Row) (rest : List Row) :
    Lines ((row :: rest).map Row.equation) (rowsTokens (row :: rest)) := by
  induction rest generalizing row with
  | nil => exact .last row.spelledBy_tokens
  | cons next rest ih => exact .more row.spelledBy_tokens rfl Source.newLines_nil (ih next)

theorem spelledBy_rowsTokens {rows : List Row} (some : rows ≠ []) :
    Document.SpelledBy (rows.map Row.equation) (rowsTokens rows) := by
  obtain ⟨row, rest, rfl⟩ := List.exists_cons_of_ne_nil some
  exact ⟨[], _, [], Source.newLines_nil, lines_rowsTokens row rest, Source.newLines_nil,
    (List.append_nil _).symm⟩

/-! ## Rows as characters -/

def Row.written (row : Row) : List Char :=
  row.name.toList ++
    ([' ', '=', ' ', '{'] ++ ([',', ' '].intercalate (row.points.map String.toList) ++ ['}']))

/-- From every place on, the characters are cut into tokens with these words, and none of them would
go on with a number before them. -/
structure CutsTo (dialect : Dialect) (chars : List Char) (tokens : List Token) : Prop where
  stops : Stops Char.isDigit chars
  exists_cut : ∀ place, ∃ found, Cut dialect place chars found ∧
    found.map Token.word = tokens.map Token.word

variable {dialect : Dialect} {rest : List Char} {tokens : List Token}

theorem cutsTo_nil : CutsTo dialect [] [] := ⟨nofun, fun place => ⟨[], .ended place, rfl⟩⟩

theorem CutsTo.blank (later : CutsTo dialect rest tokens) : CutsTo dialect (' ' :: rest) tokens where
  stops := by
    rintro _ ⟨⟩
    rfl
  exists_cut place := by
    obtain ⟨found, cut, same⟩ := later.exists_cut (place.next ' ')
    exact ⟨found, .blank rfl cut, same⟩

theorem CutsTo.token (later : CutsTo dialect rest tokens) (token : Token)
    (written : Written dialect token.kind token.lexeme.toList) :
    CutsTo dialect (token.lexeme.toList ++ rest) (token :: tokens) where
  stops := written.stops rest
  exists_cut place := by
    obtain ⟨found, cut, same⟩ := later.exists_cut (place.after token.lexeme.toList)
    refine ⟨_, .token (written.lexeme later.stops) cut, ?_⟩
    rw [List.map_cons, List.map_cons, same, Token.word, String.ofList_toList]
    rfl

theorem Numbered.written {kind : Kind} {letter : Char} {name : String}
    (numbered : Numbered letter name) (starts : dialect.kindOf letter = kind)
    (named : kind = .dataPoint ∨ kind = .definition) : Written dialect kind name.toList := by
  obtain ⟨digits, whole, number, _⟩ := numbered
  have initial := dialect.initial_of_kindOf letter
  rw [whole]
  rcases named with rfl | rfl
  · rw [initial.2.1 starts]
    exact .dataPoint number
  · rw [initial.2.2 starts]
    exact .definition number

theorem numbered_of_written {kind : Kind} {letter : Char} {name : String}
    (written : Written dialect kind name.toList) (starts : dialect.kindOf letter = kind)
    (named : kind = .dataPoint ∨ kind = .definition)
    (short : name.length ≤ Text.digitLimit + 1) : Numbered letter name := by
  have initial := dialect.initial_of_kindOf letter
  rw [← String.length_toList] at short
  generalize whole : name.toList = chars at written short
  rcases named with rfl | rfl
  · cases written with
    | dataPoint number =>
        rw [initial.2.1 starts]
        exact ⟨_, whole, number, Nat.le_of_succ_le_succ short⟩
  · cases written with
    | definition number =>
        rw [initial.2.2 starts]
        exact ⟨_, whole, number, Nat.le_of_succ_le_succ short⟩

theorem CutsTo.points {first : String} {more : List String}
    (later : CutsTo dialect ('}' :: rest) tokens) (numbered : ∀ d ∈ first :: more, Numbered 'd' d) :
    CutsTo dialect ([',', ' '].intercalate ((first :: more).map String.toList) ++ '}' :: rest)
      ((Name.mk first .start).definition ::
        (laterTokens (more.map (⟨·, .start⟩)) ++ tokens)) := by
  induction more generalizing first with
  | nil =>
      have here := numbered first List.mem_cons_self
      rw [List.map_singleton, List.intercalate_singleton]
      exact later.token (Name.mk first .start).definition (here.written rfl (.inr rfl))
  | cons next more ih =>
      obtain ⟨here, others⟩ := List.forall_mem_cons.mp numbered
      have separated := (ih others).blank.token ⟨.comma, ",", .start⟩ .comma
      rw [List.map_cons, List.map_cons, List.intercalate_cons_cons, List.append_assoc,
        List.append_assoc]
      exact separated.token (Name.mk first .start).definition (here.written rfl (.inr rfl))

theorem CutsTo.row {row : Row} (later : CutsTo dialect rest tokens)
    (target : Numbered 'L' row.name) (points : ∀ d ∈ row.points, Numbered 'd' d) :
    CutsTo dialect (row.written ++ rest) (row.tokens ++ tokens) := by
  have closed := later.token ⟨.setClose, "\x7d", .start⟩ .setClose
  have inside : CutsTo dialect ('{' :: ([',', ' '].intercalate (row.points.map String.toList) ++
      '}' :: rest)) (setTokens (row.points.map (⟨·, .start⟩)) ++ tokens) := by
    cases same : row.points with
    | nil => exact closed.token ⟨.setOpen, "\x7b", .start⟩ .setOpen
    | cons first more =>
        rw [same] at points
        have listed := (closed.points points).token ⟨.setOpen, "\x7b", .start⟩ .setOpen
        simp only [List.map_cons, setTokens, List.cons_append, List.append_assoc] at listed ⊢
        exact listed
  have equated := inside.blank.token ⟨.equals, "=", .start⟩ .equals
  have whole := equated.blank.token (Name.mk row.name .start).dataPoint
    (target.written rfl (.inl rfl))
  rw [Row.written, List.append_assoc, List.append_assoc, List.append_assoc]
  exact whole

theorem cutsTo_rows : ∀ rows : List Row, (∀ row ∈ rows, Numbered 'L' row.name) →
    (∀ row ∈ rows, ∀ d ∈ row.points, Numbered 'd' d) →
      CutsTo dialect (['\n'].intercalate (rows.map Row.written)) (rowsTokens rows)
  | [], _, _ => cutsTo_nil
  | [row], targets, points => by
      have last : CutsTo dialect (row.written ++ []) (row.tokens ++ []) :=
        cutsTo_nil.row (targets row List.mem_cons_self) (points row List.mem_cons_self)
      rw [List.append_nil, List.append_nil] at last
      rwa [List.map_singleton, List.intercalate_singleton]
  | row :: next :: rest, targets, points => by
      obtain ⟨target, others⟩ := List.forall_mem_cons.mp targets
      obtain ⟨here, later⟩ := List.forall_mem_cons.mp points
      have ended := (cutsTo_rows (next :: rest) others later).token ⟨.newLine, "\n", .start⟩ .newLine
      rw [List.map_cons, List.map_cons, List.intercalate_cons_cons, List.append_assoc]
      exact ended.row target here

theorem CutsTo.exists_read {chars : List Char} {document : Document}
    (cuts : CutsTo dialect chars tokens) (spelled : document.SpelledBy tokens) :
    ∃ read, Document.ofText? dialect (String.ofList chars) = .ok read ∧
      read.toNode = document.toNode := by
  obtain ⟨found, cut, same⟩ := cuts.exists_cut .start
  obtain ⟨read, respelled, node⟩ := Document.respells spelled same
  rw [← String.toList_ofList (l := chars)] at cut
  refine ⟨read, Source.ofText?_of_lex (Source.lex_of_cut cut) ?_, node⟩
  rwa [Source.significant_closed found rfl, Source.significant_of_plain respelled.plain]

/-! ## Listings as texts -/

/-- Puts an equals sign in the place of the first colon that a blank follows. -/
def asEquation : List Char → List Char
  | ':' :: ' ' :: rest => ' ' :: '=' :: ' ' :: rest
  | c :: rest => c :: asEquation rest
  | [] => []

def asEquations (text : String) : String :=
  String.ofList (['\n'].intercalate ((text.toList.splitOn '\n').map asEquation))

theorem asEquation_append {front : List Char} (plain : ':' ∉ front) (rest : List Char) :
    asEquation (front ++ ':' :: ' ' :: rest) = front ++ ' ' :: '=' :: ' ' :: rest := by
  induction front with
  | nil => rfl
  | cons c front ih =>
      rw [List.mem_cons, not_or] at plain
      rw [List.cons_append, asEquation, ih plain.2, List.cons_append]
      rintro _ rfl
      exact absurd rfl plain.1

theorem Numbered.mem {letter c : Char} {name : String} (numbered : Numbered letter name)
    (member : c ∈ name.toList) : c = letter ∨ c.isDigit = true := by
  obtain ⟨digits, whole, number, _⟩ := numbered
  rw [whole] at member
  exact (List.mem_cons.mp member).imp_right (List.all_eq_true.mp number c)

theorem Numbered.notMem {letter c : Char} {name : String} (numbered : Numbered letter name)
    (other : c ≠ letter) (noDigit : c.isDigit = false) : c ∉ name.toList := by
  intro member
  rcases numbered.mem member with same | digit
  · exact other same
  · exact Bool.false_ne_true (noDigit.symm.trans digit)

theorem mem_intercalate {c : Char} {separator : List Char} : ∀ {parts : List (List Char)},
    c ∈ separator.intercalate parts → c ∈ separator ∨ ∃ part ∈ parts, c ∈ part
  | [], member => by simp at member
  | [part], member => by
      rw [List.intercalate_singleton] at member
      exact .inr ⟨part, List.mem_cons_self, member⟩
  | part :: next :: parts, member => by
      rw [List.intercalate_cons_cons, List.append_assoc, List.mem_append, List.mem_append] at member
      rcases member with first | between | later
      · exact .inr ⟨part, List.mem_cons_self, first⟩
      · exact .inl between
      · obtain between | ⟨found, among, member⟩ := mem_intercalate later
        · exact .inl between
        · exact .inr ⟨found, List.mem_cons_of_mem _ among, member⟩

theorem Row.toList_line (row : Row) : row.line.toList = row.name.toList ++ ':' :: ' ' :: '{' ::
    ([',', ' '].intercalate (row.points.map String.toList) ++ ['}']) := by
  simp [Row.line, String.toList_append]

theorem Row.asEquation_line {row : Row} (target : Numbered 'L' row.name) :
    asEquation row.line.toList = row.written := by
  rw [row.toList_line, asEquation_append (target.notMem (by decide) rfl)]
  rfl

theorem Row.oneLine {row : Row} (target : Numbered 'L' row.name)
    (points : ∀ d ∈ row.points, Numbered 'd' d) : '\n' ∉ row.line.toList := by
  have inside : '\n' ∉ [',', ' '].intercalate (row.points.map String.toList) := by
    intro member
    rcases mem_intercalate member with between | ⟨_, among, member⟩
    · exact absurd between (by decide)
    · obtain ⟨d, listed, rfl⟩ := List.mem_map.mp among
      exact (points d listed).notMem (by decide) rfl member
  have named : '\n' ∉ row.name.toList := target.notMem (by decide) rfl
  rw [row.toList_line]
  simp [named, inside]

theorem asEquations_listing {rows : List Row} (some : rows ≠ [])
    (targets : ∀ row ∈ rows, Numbered 'L' row.name)
    (points : ∀ row ∈ rows, ∀ d ∈ row.points, Numbered 'd' d) :
    asEquations (listing rows) = String.ofList (['\n'].intercalate (rows.map Row.written)) := by
  have lines : (listing rows).toList =
      ['\n'].intercalate (rows.map fun row => row.line.toList) := by
    rw [listing, String.toList_intercalate, List.map_map]
    rfl
  have oneLine : ∀ line ∈ rows.map fun row => row.line.toList, '\n' ∉ line := by
    intro line member
    obtain ⟨row, among, rfl⟩ := List.mem_map.mp member
    exact Row.oneLine (targets row among) (points row among)
  rw [asEquations, lines, List.splitOn_intercalate '\n' oneLine (by simpa using some), List.map_map]
  refine congrArg (fun lines => String.ofList (['\n'].intercalate lines)) ?_
  exact List.map_congr_left fun row among => Row.asEquation_line (targets row among)

/-! ## The system of a listing -/

theorem system_of_toNode {read document : Document} (same : read.toNode = document.toNode) :
    read.system = document.system := by
  have found := Source.equationsOf?_toNode read
  rw [same, Source.equationsOf?_toNode] at found
  exact (Except.ok.inj found).symm

section
variable (rows : List Row)

theorem targets_rows :
    Solver.targets (Document.system (rows.map Row.equation)) = rows.map Row.name := by
  rw [Source.targets_system, List.map_map]
  rfl

theorem constant_rows : Solver.Constant (Document.system (rows.map Row.equation)) := by
  intro equation member
  obtain ⟨written, among, rfl⟩ := List.mem_map.mp member
  obtain ⟨row, _, rfl⟩ := List.mem_map.mp among
  exact Source.SetLiteral.references_toNode _

end

theorem mem_of_evaluate_set {state : State} {items : Source.SetLiteral} {points : Solver.PointSet}
    (value : Solver.evaluate state items.toNode = .ok points) (d : String) :
    d ∈ points ↔ d ∈ items.texts := by
  have known : ∀ name ∈ items.toNode.references, name ∈ state.names := by
    rw [Source.SetLiteral.references_toNode]
    exact fun name reference => absurd reference List.not_mem_nil
  obtain ⟨same, again, yielded⟩ := Solver.evaluate_spec items.toNode known
  obtain rfl : points = same := Except.ok.inj (value.symm.trans again)
  rw [yielded, Source.SetLiteral.yields_toNode]

/-- A solution of the rows of a state holds what the state holds. -/
theorem Shown.alike {state solution : State} {rows : List Row} (shown : Shown state rows)
    (solves : Solver.IsSolution (Document.system (rows.map Row.equation)) solution) :
    solution.Alike state := by
  have names : ∀ name, name ∈ solution.names ↔ name ∈ state.names := by
    intro name
    rw [solves.names, targets_rows, shown.names.mem_iff]
  intro name
  by_cases present : name ∈ state.names
  · obtain ⟨row, among, rfl⟩ := List.mem_map.mp (shown.names.mem_iff.mpr present)
    obtain ⟨points, stored, value⟩ := solves.satisfied ⟨row.name, row.equation.value.toNode⟩
      (List.mem_map_of_mem (List.mem_map_of_mem among))
    have texts : Source.SetLiteral.texts (row.points.map (⟨·, .start⟩)) = row.points := by
      rw [Source.SetLiteral.texts, List.map_map]
      exact List.map_id _
    have same : points = state.points row.name := by
      apply Solver.PointSet.ext
      intro d
      rw [mem_of_evaluate_set value, texts, (shown.points row among).mem_iff]
      rfl
    rw [State.get?_of_mem present, ← same]
    exact stored
  · rw [State.get?_of_notMem present,
      State.get?_of_notMem fun there => present ((names name).mp there)]

/-! ## Reading a listing back -/

/-- With equals signs in it, the text is read as a document with the state for its solution, after a
single iteration. -/
structure ReadsBack (text : String) (state : State) : Prop where
  exists_read : ∀ dialect, ∃ read, Document.ofText? dialect (asEquations text) = .ok read ∧
    Closed read.system ∧ ∀ scheme, ∃ result, Returns scheme read.system result ∧
      result.solution.Alike state ∧ result.iterations = 1

theorem Shown.numbered {state : State} {rows : List Row} (shown : Shown state rows)
    (named : WellNamed state) :
    (∀ row ∈ rows, Numbered 'L' row.name) ∧ ∀ row ∈ rows, ∀ d ∈ row.points, Numbered 'd' d := by
  constructor
  · intro row among
    exact named.names _ (shown.names.mem_iff.mp (List.mem_map_of_mem among))
  · intro row among d member
    have present := shown.names.mem_iff.mp (List.mem_map_of_mem among)
    exact named.points row.name present d ((shown.points row among).mem_iff.mp member)

theorem Shown.readsBack {state : State} {rows : List Row} (shown : Shown state rows)
    (named : WellNamed state) (some : state.names ≠ []) : ReadsBack (listing rows) state where
  exists_read dialect := by
    obtain ⟨targets, points⟩ := shown.numbered named
    have present : rows ≠ [] := by
      rintro rfl
      exact some shown.names.nil_eq.symm
    obtain ⟨read, whole, node⟩ :=
      (cutsTo_rows rows targets points).exists_read (spelledBy_rowsTokens present)
    rw [← asEquations_listing present targets points] at whole
    have system := system_of_toNode node
    have distinct : (Solver.targets (Document.system (rows.map Row.equation))).Nodup := by
      rw [targets_rows, shown.names.nodup_iff]
      exact state.nodup
    refine ⟨read, whole, system ▸ (constant_rows rows).closed, fun scheme => ?_⟩
    obtain ⟨result, returns, once⟩ := (constant_rows rows).exists_returns distinct scheme
    refine ⟨result, system ▸ returns, ?_, once⟩
    exact shown.alike (Solver.isSolution_of_returns distinct returns)

end Reaching.Report
