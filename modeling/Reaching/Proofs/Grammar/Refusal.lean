import Reaching.Proofs.Grammar.Lookahead

/-! # Where a token list is refused

The tokens before the one that is reported can go on to a document.  This is shown reader by reader:
one that fails has taken tokens with which something that it reads begins (`StopsInside`), and the
rest of it is given there.

The tokens up to the one that is reported cannot.  No reader looks past that token, so whatever comes
after it the reading fails at the same place (`document_looksAhead`).

Main fact: `refused_at_first_bad_token`. -/
set_option autoImplicit false

namespace Reaching.Source

namespace Parser

variable {α β : Type}

/-! ## Failures of single steps -/

theorem bind_eq_stuck {reading : Reading α} {next : α → List Token → Reading β} {cause : Cause}
    {rest : List Token} :
    reading.bind next = .stuck cause rest ↔
      reading = .stuck cause rest ∨
        ∃ first left, reading = .done first left ∧ next first left = .stuck cause rest := by
  cases reading with
  | stuck other left => simp [Reading.bind]
  | done first left =>
      constructor
      · exact fun read => Or.inr ⟨first, left, rfl, read⟩
      · rintro (same | ⟨_, _, same, read⟩)
        · cases same
        · cases same
          exact read

theorem map_eq_stuck {reading : Reading α} {f : α → β} {cause : Cause} {rest : List Token} :
    reading.map f = .stuck cause rest ↔ reading = .stuck cause rest := by
  cases reading with
  | done first left => simp [Reading.map, Reading.bind]
  | stuck other left => simp [Reading.map, Reading.bind]

theorem expect_eq_stuck {kind : Kind} {tokens rest : List Token} {cause : Cause}
    (read : expect kind tokens = .stuck cause rest) : tokens = rest := by
  cases tokens with
  | nil =>
      cases read
      rfl
  | cons token tail =>
      rw [expect] at read
      split at read
      · cases read
      · cases read
        rfl

theorem closeSet_eq_stuck {tokens rest : List Token} {cause : Cause}
    (read : closeSet tokens = .stuck cause rest) : tokens = rest := by
  rw [closeSet_eq] at read
  split at read
  · exact expect_eq_stuck (map_eq_stuck.mp read)
  · cases read
    rfl

/-! ## Tokens to go on with -/

def anyPoint : Name := ⟨"L", .start⟩

def anyDefinition : Name := ⟨"d", .start⟩

def anyOpen : Token := ⟨.setOpen, "\x7b", .start⟩

def anyClose : Token := ⟨.setClose, "\x7d", .start⟩

def anyEquals : Token := ⟨.equals, "=", .start⟩

theorem emptySet_spelledBy : SetLiteral.SpelledBy [] [anyOpen, anyClose] := .empty rfl rfl

theorem anyPoint_spelledBy : (Expr.operand (.point anyPoint)).SpelledBy [anyPoint.dataPoint] :=
  .operand (.point anyPoint)

theorem anyEquation_spelledBy :
    (⟨anyPoint, .operand (.point anyPoint)⟩ : Equation).SpelledBy
      [anyPoint.dataPoint, anyEquals, anyPoint.dataPoint] :=
  .equals anyPoint rfl anyPoint_spelledBy

/-! ## Readers stop inside what they read -/

def StopsInside (reader : List Token → Reading α) (spells : List Token → Prop) : Prop :=
  ∀ {tokens : List Token} {cause : Cause} {rest : List Token}, reader tokens = .stuck cause rest →
    ∃ used more, tokens = used ++ rest ∧ spells (used ++ more)

theorem moreDefinitions_stopsInside :
    StopsInside moreDefinitions fun tokens => ∃ names, Continued names tokens := by
  intro tokens cause rest
  fun_induction moreDefinitions tokens generalizing rest with
  | case1 =>
      intro read
      cases read
  | case2 comma separates =>
      intro read
      cases read
      exact ⟨[comma], [anyDefinition.definition], rfl, _, .comma anyDefinition separates .done⟩
  | case3 =>
      intro read
      cases read
  | case4 comma name left separates kind ih =>
      intro read
      obtain ⟨used, more, rfl, names, spelled⟩ := ih (map_eq_stuck.mp read)
      refine ⟨comma :: name :: used, more, rfl, Name.ofToken name :: names, ?_⟩
      have step := Continued.comma (Name.ofToken name) separates spelled
      rwa [definition_ofToken kind] at step
  | case5 comma name left separates =>
      intro read
      cases read
      exact ⟨[comma], [anyDefinition.definition], rfl, _, .comma anyDefinition separates .done⟩
  | case6 =>
      intro read
      cases read

theorem definitions_stopsInside {opening : Token} (opens : opening.kind = .setOpen) :
    StopsInside definitions fun tokens =>
      ∃ items : SetLiteral, items.SpelledBy (opening :: (tokens ++ [anyClose])) := by
  intro tokens cause rest read
  rw [definitions] at read
  split at read
  · rename_i next
    rcases bind_eq_stuck.mp read with undefined | ⟨first, left, defined, listed⟩
    · obtain ⟨name, tail, rfl, kind⟩ := exists_of_nextIs next
      rw [definition, expect, if_pos kind] at undefined
      cases undefined
    · obtain ⟨name, taken, rfl⟩ := map_eq_done.mp defined
      obtain ⟨rfl, kind⟩ := expect_eq_done.mp taken
      obtain ⟨used, more, rfl, names, spelled⟩ :=
        moreDefinitions_stopsInside (map_eq_stuck.mp listed)
      refine ⟨name :: used, more, rfl, Name.ofToken name :: names, ?_⟩
      have closes : anyClose.kind = .setClose := rfl
      have step := SetLiteral.SpelledBy.listed (Name.ofToken name) opens spelled closes
      rwa [definition_ofToken kind] at step
  · cases read

theorem set_stopsInside :
    StopsInside set fun tokens => ∃ items : SetLiteral, items.SpelledBy tokens := by
  intro tokens cause rest read
  rcases bind_eq_stuck.mp read with unopened | ⟨opening, inner, opened, inside⟩
  · exact ⟨[], [anyOpen, anyClose], expect_eq_stuck unopened, [], emptySet_spelledBy⟩
  obtain ⟨rfl, opens⟩ := expect_eq_done.mp opened
  rcases bind_eq_stuck.mp inside with unlisted | ⟨items, left, listed, unclosed⟩
  · obtain ⟨used, more, rfl, items, spelled⟩ := definitions_stopsInside opens unlisted
    exact ⟨opening :: used, more ++ [anyClose], rfl, items, by simpa using spelled⟩
  · obtain ⟨used, rfl, spelled⟩ := definitions_sound listed
    have same := closeSet_eq_stuck (map_eq_stuck.mp unclosed)
    exact ⟨opening :: used, [anyClose], by rw [same]; rfl, items, spelled opens rfl⟩

theorem operand_stopsInside :
    StopsInside operand fun tokens => ∃ value : Operand, value.SpelledBy tokens := by
  intro tokens cause rest read
  have refused : tokens = rest → ∃ used more, tokens = used ++ rest ∧
      ∃ value : Operand, value.SpelledBy (used ++ more) :=
    fun same => ⟨[], [anyPoint.dataPoint], same, .point anyPoint, .point anyPoint⟩
  rw [operand_eq] at read
  split at read
  · obtain ⟨used, more, whole, items, spelled⟩ := set_stopsInside (map_eq_stuck.mp read)
    exact ⟨used, more, whole, .set items, .set spelled⟩
  · split at read
    · exact refused (expect_eq_stuck (map_eq_stuck.mp (map_eq_stuck.mp read)))
    · cases read
      exact refused rfl

theorem subtrahend_stopsInside (operator : Token) :
    StopsInside (subtrahend operator) fun tokens =>
      ∃ items : SetLiteral, items.SpelledBy tokens := by
  intro tokens cause rest read
  rw [subtrahend] at read
  split at read
  · exact set_stopsInside read
  · cases read
    exact ⟨[], [anyOpen, anyClose], rfl, [], emptySet_spelledBy⟩

/-! ## Expressions -/

theorem chain_stopsInside {left : Expr} {tokens rest : List Token} {cause : Cause} :
    chain left tokens = .stuck cause rest →
      ∃ used more, tokens = used ++ rest ∧
        ∀ before, left.SpelledBy before →
          ∃ value : Expr, value.SpelledBy (before ++ (used ++ more)) := by
  -- As in `chain_sound`, the tokens before grow with every operator that is read.
  fun_induction chain left tokens with
  | case1 =>
      intro read
      cases read
  | case2 left operator tail =>
      intro read
      cases read
      exact ⟨[], [], rfl, fun before first => ⟨left, by simpa using first⟩⟩
  | case3 left operator tail =>
      intro read
      cases read
      exact ⟨[], [], rfl, fun before first => ⟨left, by simpa using first⟩⟩
  | case4 left operator tail unites right after taken ih =>
      intro read
      obtain ⟨used, more, rfl, whole⟩ := ih read
      obtain ⟨last, rfl, spelled⟩ := operand_sound taken
      refine ⟨operator :: (last ++ used), more, by simp, fun before first => ?_⟩
      obtain ⟨value, step⟩ := whole _ (.union first unites spelled)
      exact ⟨value, by simpa using step⟩
  | case5 left operator tail unites cause after failed =>
      intro read
      cases read
      obtain ⟨used, more, rfl, right, spelled⟩ := operand_stopsInside failed
      exact ⟨operator :: used, more, rfl, fun before first => ⟨_, .union first unites spelled⟩⟩
  | case6 left operator tail subtracts right after taken ih =>
      intro read
      obtain ⟨used, more, rfl, whole⟩ := ih read
      obtain ⟨last, rfl, spelled⟩ := subtrahend_sound taken
      refine ⟨operator :: (last ++ used), more, by simp, fun before first => ?_⟩
      obtain ⟨value, step⟩ := whole _ (.difference first subtracts spelled)
      exact ⟨value, by simpa using step⟩
  | case7 left operator tail subtracts cause after failed =>
      intro read
      cases read
      obtain ⟨used, more, rfl, right, spelled⟩ := subtrahend_stopsInside operator failed
      exact ⟨operator :: used, more, rfl,
        fun before first => ⟨_, .difference first subtracts spelled⟩⟩
  | case8 =>
      intro read
      cases read

theorem expression_stopsInside :
    StopsInside expression fun tokens => ∃ value : Expr, value.SpelledBy tokens := by
  intro tokens cause rest read
  have started : (operand tokens).bind (fun first rest => chain (.operand first) rest) =
        .stuck cause rest →
      ∃ used more, tokens = used ++ rest ∧ ∃ value : Expr, value.SpelledBy (used ++ more) := by
    intro read
    rcases bind_eq_stuck.mp read with failed | ⟨first, after, taken, going⟩
    · obtain ⟨used, more, whole, value, spelled⟩ := operand_stopsInside failed
      exact ⟨used, more, whole, .operand value, .operand spelled⟩
    · obtain ⟨begun, rfl, spelled⟩ := operand_sound taken
      obtain ⟨used, more, rfl, whole⟩ := chain_stopsInside going
      obtain ⟨value, step⟩ := whole begun (.operand spelled)
      exact ⟨begun ++ used, more, by simp, value, by simpa using step⟩
  obtain ⟨report, cases⟩ := exists_expression_eq
  rw [cases] at read
  split at read
  · exact started read
  · split at read
    · exact started read
    · cases read
      exact ⟨[], [anyPoint.dataPoint], rfl, _, anyPoint_spelledBy⟩

/-! ## Equations and documents -/

theorem equation_stopsInside :
    StopsInside equation fun tokens => ∃ value : Equation, value.SpelledBy tokens := by
  intro tokens cause rest read
  rcases bind_eq_stuck.mp read with unnamed | ⟨target, tail, named, later⟩
  · have same := expect_eq_stuck (map_eq_stuck.mp unnamed)
    exact ⟨[], _, same, _, anyEquation_spelledBy⟩
  obtain ⟨name, taken, rfl⟩ := map_eq_done.mp named
  obtain ⟨rfl, kind⟩ := expect_eq_done.mp taken
  rcases bind_eq_stuck.mp later with unequal | ⟨sign, after, equated, valued⟩
  · have same := expect_eq_stuck unequal
    refine ⟨[name], [anyEquals, anyPoint.dataPoint], by rw [same]; rfl,
      ⟨Name.ofToken name, .operand (.point anyPoint)⟩, ?_⟩
    have equates : anyEquals.kind = .equals := rfl
    have whole := Equation.SpelledBy.equals (Name.ofToken name) equates anyPoint_spelledBy
    rwa [dataPoint_ofToken kind] at whole
  · obtain ⟨rfl, equates⟩ := expect_eq_done.mp equated
    obtain ⟨used, more, rfl, value, spelled⟩ := expression_stopsInside (map_eq_stuck.mp valued)
    refine ⟨name :: sign :: used, more, rfl, ⟨Name.ofToken name, value⟩, ?_⟩
    have whole := Equation.SpelledBy.equals (Name.ofToken name) equates spelled
    rwa [dataPoint_ofToken kind] at whole

theorem equations_stopsInside :
    StopsInside equations fun tokens => ∃ document, Lines document tokens := by
  intro tokens cause rest
  fun_induction equations tokens generalizing rest with
  | case1 =>
      intro read
      cases read
  | case2 tokens _ cause after failed =>
      intro read
      cases read
      obtain ⟨used, more, whole, value, spelled⟩ := equation_stopsInside failed
      exact ⟨used, more, whole, [value], .last spelled⟩
  | case3 =>
      intro read
      cases read
  | case4 tokens _ first taken _ =>
      intro read
      cases read
      obtain ⟨used, rfl, spelled⟩ := equation_sound taken
      exact ⟨used, [], rfl, [first], by simpa using Lines.last spelled⟩
  | case5 tokens _ first newline left _ ends taken _ ih =>
      intro read
      obtain ⟨used, rfl, spelled⟩ := equation_sound taken
      obtain ⟨gap, blank, skipped⟩ := skipNewLines_split left
      obtain ⟨later, more, same, document, lines⟩ := ih (map_eq_stuck.mp read)
      refine ⟨used ++ newline :: (gap ++ later), more, ?_, first :: document, ?_⟩
      · rw [skipped, same]
        simp
      · simpa using Lines.more spelled ends blank lines
  | case6 tokens _ first token left _ _ taken _ =>
      intro read
      cases read
      obtain ⟨used, rfl, spelled⟩ := equation_sound taken
      exact ⟨used, [], rfl, [first], by simpa using Lines.last spelled⟩

theorem document_stopsInside :
    StopsInside document fun tokens => ∃ written : Document, written.SpelledBy tokens := by
  intro tokens cause rest read
  obtain ⟨gap, blank, skipped⟩ := skipNewLines_split tokens
  rcases bind_eq_stuck.mp read with failed | ⟨found, left, listed, chosen⟩
  · obtain ⟨used, more, same, written, lines⟩ := equations_stopsInside failed
    refine ⟨gap ++ used, more, ?_, written, gap, used ++ more, [], blank, lines, newLines_nil, ?_⟩
    · rw [skipped, same, List.append_assoc]
    · simp
  · cases found with
    | cons first more => cases chosen
    | nil =>
        cases chosen
        obtain ⟨_, ⟨_, same⟩ | ⟨body, after, lines, _⟩⟩ := equations_sound listed
        · refine ⟨gap, [anyPoint.dataPoint, anyEquals, anyPoint.dataPoint], ?_,
            [⟨anyPoint, .operand (.point anyPoint)⟩], gap, _, [], blank,
            .last anyEquation_spelledBy, newLines_nil, rfl⟩
          exact skipped.trans (congrArg (gap ++ ·) same)
        · exact absurd rfl lines.ne_nil

end Parser

/-! ## Lists that can go on -/

/-- Some list that is accepted begins with the tokens. -/
def Viable (tokens : List Token) : Prop :=
  ∃ more document, parse (tokens ++ more) = .ok document

theorem viable_of_spelledBy {used more : List Token} {document : Document}
    (spelled : document.SpelledBy (used ++ more)) : Viable used := by
  refine ⟨more, document, ?_⟩
  rw [parse_eq_ok, significant_of_plain spelled.plain]
  exact spelled

/-- A reading that fails at a token fails whatever comes after that token. -/
theorem not_viable_of_stuck {before tail : List Token} {bad : Token} {cause : Cause}
    (plain : Plain (before ++ [bad]))
    (failed : Parser.document (before ++ bad :: tail) = .stuck cause (bad :: tail)) :
    ¬ Viable (before ++ [bad]) := by
  rintro ⟨more, document, accepted⟩
  obtain ⟨left, whole, _⟩ := held_eq (before ++ [bad] ++ more)
  have begun : held (before ++ [bad] ++ more) = before ++ bad :: (significant more ++ left) := by
    rw [whole, significant_append plain]
    simp
  have again := Parser.document_looksAhead before bad tail (significant more ++ left) []
    (congrArg Reading.rest failed)
  have refused : parse (before ++ [bad] ++ more) = .error ⟨cause, bad⟩ := by
    change (Parser.document (held (before ++ [bad] ++ more))).toExcept = _
    rw [begun, again, failed]
    rfl
  rw [refused] at accepted
  cases accepted

/-! ## The place of an error -/

theorem ParseError.place_of_found {error : ParseError} {bad : Token} (found : error.found = some bad)
    (goes : bad.kind ≠ .endOfInput) : error.place = some bad.place := by
  rw [place, found]
  exact if_neg goes

theorem ParseError.message_of_found {error : ParseError} {bad : Token}
    (found : error.found = some bad) (goes : bad.kind ≠ .endOfInput) :
    error.message = "Parser error at line " ++ toString bad.place.line ++ ", column " ++
      toString bad.place.column ++ ": " ++ error.cause.message bad := by
  rw [message, place_of_found found goes, found]

/-- Only the text of an error without a place begins as one at the end does. -/
theorem ParseError.begins_atEnd (error : ParseError) :
    "Parser error at end of file: ".toList <+: error.message.toList ↔ error.place = none := by
  rw [message]
  cases error.place with
  | none => simp [String.toList_append]
  | some place => simp [String.toList_append]

/-- Tokens that can begin a document are taken from the significant ones only. -/
theorem exists_after_of_goesOn {tokens used rest : List Token} (goes : GoesOn used)
    (split : held tokens = used ++ rest) :
    ∃ after left, significant tokens = used ++ after ∧ rest = after ++ left ∧
      Parser.nextIs .endOfInput left = true := by
  obtain ⟨left, whole, closed⟩ := held_eq tokens
  rw [whole] at split
  rcases List.append_eq_append_iff.mp split with ⟨extra, begun, rfl⟩ | ⟨after, begun, rfl⟩
  · cases extra with
    | nil => exact ⟨[], rest, by simpa using begun.symm, rfl, closed⟩
    | cons closing extra =>
        have ends : closing.kind = .endOfInput := of_decide_eq_true closed
        exact absurd ends (goes closing (by simp [begun]))
  · exact ⟨after, left, begun, rfl, closed⟩

/-- The significant tokens before an index can go on to a document.  With the token at the index they
cannot, and this is the token that the error tells; or all of them are before it, and they are no
document. -/
structure RefusedAt (tokens : List Token) (error : ParseError) (index : Nat) : Prop where
  within : index ≤ (significant tokens).length
  taken : ((Stream.ofTokens tokens).read Parser.document).2.taken = index
  viable : Viable ((significant tokens).take index)
  barred : ∀ bad, (significant tokens)[index]? = some bad →
    ¬ Viable ((significant tokens).take (index + 1)) ∧ error.place = some bad.place ∧
      error.message = "Parser error at line " ++ toString bad.place.line ++ ", column " ++
        toString bad.place.column ++ ": " ++ error.cause.message bad
  unfinished : index = (significant tokens).length →
    ∀ document, parse (significant tokens) ≠ .ok document
  placeless : error.place = none ↔ index = (significant tokens).length
  text : "Parser error at end of file: ".toList <+: error.message.toList ↔
    index = (significant tokens).length

namespace RefusedAt

variable {tokens used : List Token} {error : ParseError}
  (taken : ((Stream.ofTokens tokens).read Parser.document).2.taken = used.length)
  (viable : Viable used) (unaccepted : ∀ document, parse (significant tokens) ≠ .ok document)

include taken viable unaccepted

theorem of_end {closing : Token} (whole : significant tokens = used)
    (found : error.found = some closing) (ends : closing.kind = .endOfInput) :
    RefusedAt tokens error used.length := by
  have all : used.length = (significant tokens).length := by rw [whole]
  have nowhere : error.place = none := by
    rw [ParseError.place, found]
    exact if_pos ends
  refine ⟨all.le, taken, ?_, fun bad there => ?_, fun _ => unaccepted, ?_, ?_⟩
  · rwa [all, List.take_length, whole]
  · simp [whole] at there
  · exact iff_of_true nowhere all
  · exact iff_of_true (error.begins_atEnd.mpr nowhere) all

theorem of_token {bad : Token} {later : List Token}
    (whole : significant tokens = used ++ bad :: later) (found : error.found = some bad)
    (barred : ¬ Viable (used ++ [bad])) : RefusedAt tokens error used.length := by
  have some : used.length < (significant tokens).length := by simp [whole]
  have goes := (plain_significant tokens).goesOn bad (by simp [whole])
  have place := ParseError.place_of_found found goes
  have placeless : error.place = none ↔ used.length = (significant tokens).length := by
    rw [place]
    exact iff_of_false nofun some.ne
  have joined : significant tokens = (used ++ [bad]) ++ later := by rw [whole, List.append_cons]
  refine ⟨some.le, taken, ?_, fun other there => ?_, fun _ => unaccepted, placeless, ?_⟩
  · rwa [whole, List.take_left]
  · obtain rfl : bad = other := by simpa [whole] using there
    refine ⟨?_, place, ParseError.message_of_found found goes⟩
    have next : used.length + 1 = (used ++ [bad]).length := by simp
    rwa [next, joined, List.take_left]
  · exact error.begins_atEnd.trans placeless

end RefusedAt

theorem parse_significant (tokens : List Token) (document : Document) :
    parse (significant tokens) = .ok document ↔ parse tokens = .ok document := by
  rw [parse_eq_ok, parse_eq_ok, significant_of_plain (plain_significant tokens)]

/-- A failed reading leaves the stream in front of the tokens that it stands at. -/
theorem taken_of_stuck {tokens used rest : List Token} {cause : Cause}
    (read : Parser.document (held tokens) = .stuck cause rest) (split : held tokens = used ++ rest) :
    ((Stream.ofTokens tokens).read Parser.document).2.taken = used.length := by
  change 0 + ((held tokens).length - (Parser.document (held tokens)).rest.length) = used.length
  rw [read, split, Reading.rest, List.length_append]
  omega

theorem refused_at_first_bad_token (tokens : List Token) (error : ParseError)
    (refused : parse tokens = .error error) : ∃ index, RefusedAt tokens error index := by
  have unaccepted : ∀ document, parse (significant tokens) ≠ .ok document := by
    intro document accepted
    rw [parse_significant, refused] at accepted
    cases accepted
  change (Parser.document (held tokens)).toExcept = .error error at refused
  cases read : Parser.document (held tokens) with
  | done document rest =>
      rw [read] at refused
      cases refused
  | stuck cause rest =>
      rw [read] at refused
      cases refused
      obtain ⟨used, more, split, written, spelled⟩ := Parser.document_stopsInside read
      have plain : Plain used :=
        fun token member => spelled.plain token (List.mem_append_left _ member)
      obtain ⟨after, left, whole, rfl, closed⟩ := exists_after_of_goesOn plain.goesOn split
      have taken := taken_of_stuck read split
      have viable := viable_of_spelledBy spelled
      refine ⟨used.length, ?_⟩
      cases after with
      | nil =>
          obtain ⟨closing, tail, rfl, ends⟩ := Parser.exists_of_nextIs closed
          rw [List.append_nil] at whole
          exact .of_end taken viable unaccepted whole rfl ends
      | cons bad later =>
          have clear : Plain (used ++ [bad]) := by
            have all := plain_significant tokens
            rw [whole, List.append_cons] at all
            exact fun token member => all token (List.mem_append_left later member)
          rw [split] at read
          exact .of_token taken viable unaccepted whole rfl (not_viable_of_stuck clear read)

def subtracting : List Token :=
  [⟨.comment, "# sets", ⟨1, 1⟩⟩, ⟨.newLine, "\n", ⟨1, 7⟩⟩, ⟨.dataPoint, "L1", ⟨2, 1⟩⟩,
    ⟨.equals, "=", ⟨2, 4⟩⟩, ⟨.setOpen, "\x7b", ⟨2, 6⟩⟩, ⟨.setClose, "\x7d", ⟨2, 7⟩⟩,
    ⟨.comment, "# empty", ⟨2, 9⟩⟩, ⟨.newLine, "\n", ⟨2, 16⟩⟩, ⟨.dataPoint, "L2", ⟨3, 1⟩⟩,
    ⟨.equals, "=", ⟨3, 4⟩⟩, ⟨.dataPoint, "L1", ⟨3, 6⟩⟩, ⟨.setDifference, "\\", ⟨3, 9⟩⟩,
    ⟨.dataPoint, "L2", ⟨3, 11⟩⟩, ⟨.newLine, "\n", ⟨3, 13⟩⟩, ⟨.endOfInput, "", ⟨4, 1⟩⟩]

theorem refused_at_first_bad_token_subtracting :
    parse subtracting = .error ⟨.expectedSetAfter "\\", some ⟨.dataPoint, "L2", ⟨3, 11⟩⟩⟩ ∧
      ∃ index, RefusedAt subtracting
        ⟨.expectedSetAfter "\\", some ⟨.dataPoint, "L2", ⟨3, 11⟩⟩⟩ index := by
  have refused : parse subtracting =
      .error ⟨.expectedSetAfter "\\", some ⟨.dataPoint, "L2", ⟨3, 11⟩⟩⟩ := by decide +kernel
  exact ⟨refused, refused_at_first_bad_token subtracting _ refused⟩

end Reaching.Source
