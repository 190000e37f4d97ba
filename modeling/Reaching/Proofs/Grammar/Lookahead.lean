import Reaching.Proofs.Grammar.Accepted

/-! # No reader looks past the token that it stops at

What a reader does depends on the tokens that it takes and on the first one that it leaves.  If the
tokens behind that one are exchanged for others, the outcome is the same and the others are left
(`LooksAhead`).

The readers that repeat are followed by induction on the tokens before the one that is kept.  For
the steps of a single run, `SameUpTo` compares two outcomes; it asks nothing of a reading that has
taken the kept token, so only readings that stop at it or before it have to be compared. -/
set_option autoImplicit false

namespace Reaching.Source

namespace Reading

variable {α β : Type}

def withRest (reading : Reading α) (left : List Token) : Reading α :=
  match reading with
  | done value _ => done value left
  | stuck cause _ => stuck cause left

end Reading

namespace Parser

variable {α β : Type} {token : Token} {tail other : List Token}

/-- If the first outcome leaves the token with its tail, the second is the same with the other tokens
after it. -/
def SameUpTo (token : Token) (tail other : List Token) (one two : Reading α) : Prop :=
  ∀ left, one.rest = left ++ token :: tail → two = one.withRest (left ++ token :: other)

def LooksAhead (reader : List Token → Reading α) : Prop :=
  ∀ (used : List Token) (token : Token) (tail other : List Token),
    SameUpTo token tail other (reader (used ++ token :: tail)) (reader (used ++ token :: other))

/-! ## Outcomes, one after the other -/

theorem sameUpTo_done (value : α) (left : List Token) :
    SameUpTo token tail other (.done value (left ++ token :: tail))
      (.done value (left ++ token :: other)) := by
  intro front same
  rw [List.append_cancel_right same]
  rfl

theorem sameUpTo_stuck (cause : Cause) (left : List Token) :
    SameUpTo (α := α) token tail other (.stuck cause (left ++ token :: tail))
      (.stuck cause (left ++ token :: other)) := by
  intro front same
  rw [List.append_cancel_right same]
  rfl

/-- Nothing is asked of a reading that has taken the token. -/
theorem sameUpTo_of_suffix {one : Reading α} (two : Reading α) (beyond : one.rest <:+ tail) :
    SameUpTo token tail other one two := by
  intro left same
  have shorter := beyond.length_le
  rw [same, List.length_append, List.length_cons] at shorter
  omega

theorem SameUpTo.bind {one two : Reading α} {next : α → List Token → Reading β}
    (first : SameUpTo token tail other one two)
    (suffix : ∀ value rest, (next value rest).rest <:+ rest)
    (second : ∀ value left, one = .done value (left ++ token :: tail) →
      SameUpTo token tail other (next value (left ++ token :: tail))
        (next value (left ++ token :: other))) :
    SameUpTo token tail other (one.bind next) (two.bind next) := by
  intro left same
  cases one with
  | stuck cause rest =>
      rw [first left same]
      rfl
  | done value rest =>
      obtain ⟨front, whole⟩ := suffix value rest
      have stops : rest = (front ++ left) ++ token :: tail := by
        rw [List.append_assoc, ← whole]
        exact congrArg (front ++ ·) same
      subst stops
      rw [first (front ++ left) rfl]
      exact second value (front ++ left) rfl left same

theorem SameUpTo.map {one two : Reading α} (f : α → β) (first : SameUpTo token tail other one two) :
    SameUpTo token tail other (one.map f) (two.map f) :=
  first.bind (fun _ rest => List.suffix_refl rest) fun value left _ => sameUpTo_done (f value) left

/-! ## Readers made of others -/

theorem map_suffix {reader : List Token → Reading α}
    (suffix : ∀ tokens, (reader tokens).rest <:+ tokens) (f : α → β) (tokens : List Token) :
    ((reader tokens).map f).rest <:+ tokens := by
  rw [rest_map]
  exact suffix tokens

theorem LooksAhead.bind {reader : List Token → Reading α} {next : α → List Token → Reading β}
    (first : LooksAhead reader) (suffix : ∀ value rest, (next value rest).rest <:+ rest)
    (second : ∀ value, LooksAhead (next value)) :
    LooksAhead fun tokens => (reader tokens).bind next :=
  fun used token tail other => (first used token tail other).bind suffix
    fun value left _ => second value left token tail other

theorem LooksAhead.map {reader : List Token → Reading α} (f : α → β) (first : LooksAhead reader) :
    LooksAhead fun tokens => (reader tokens).map f :=
  fun used token tail other => (first used token tail other).map f

theorem nextIs_append_cons (kind : Kind) (used : List Token) (token : Token)
    (tail other : List Token) :
    nextIs kind (used ++ token :: tail) = nextIs kind (used ++ token :: other) := by
  cases used <;> rfl

theorem SameUpTo.ite (kind : Kind) (used : List Token) {one two three four : Reading α}
    (yes : SameUpTo token tail other one three) (no : SameUpTo token tail other two four) :
    SameUpTo token tail other (if nextIs kind (used ++ token :: tail) then one else two)
      (if nextIs kind (used ++ token :: other) then three else four) := by
  rw [nextIs_append_cons kind used token other tail]
  split
  · exact yes
  · exact no

theorem LooksAhead.ite (kind : Kind) {one two : List Token → Reading α} (first : LooksAhead one)
    (second : LooksAhead two) :
    LooksAhead fun tokens => if nextIs kind tokens then one tokens else two tokens :=
  fun used token tail other =>
    (first used token tail other).ite kind used (second used token tail other)

theorem looksAhead_done (value : α) : LooksAhead fun tokens => .done value tokens :=
  fun used _ _ _ => sameUpTo_done value used

/-- What is reported may depend on the token that is found. -/
theorem looksAhead_stuck (cause : Option Token → Cause) :
    LooksAhead fun tokens => (.stuck (cause tokens.head?) tokens : Reading α) := by
  intro used token tail other
  cases used with
  | nil => exact sameUpTo_stuck _ []
  | cons head used => exact sameUpTo_stuck _ (head :: used)

/-! ## Sets and operands -/

theorem expect_looksAhead (kind : Kind) : LooksAhead (expect kind) := by
  intro used token tail other
  cases used with
  | nil =>
      simp only [List.nil_append, expect]
      split
      · exact sameUpTo_of_suffix _ (List.suffix_refl tail)
      · exact sameUpTo_stuck _ []
  | cons head used =>
      simp only [List.cons_append, expect]
      split
      · exact sameUpTo_done head used
      · exact sameUpTo_stuck _ (head :: used)

theorem dataPoint_looksAhead : LooksAhead dataPoint :=
  (expect_looksAhead .dataPoint).map Name.ofToken

theorem definition_looksAhead : LooksAhead definition :=
  (expect_looksAhead .definition).map Name.ofToken

/-- A reader that leaves the kept token leaves no more before it than there was. -/
theorem length_le_of_done {reading : Reading α} {value : α} {left used : List Token}
    (suffix : reading.rest <:+ used ++ token :: tail)
    (read : reading = .done value (left ++ token :: tail)) : left.length ≤ used.length := by
  have shorter := suffix.length_le
  rw [read, Reading.rest, List.length_append, List.length_append] at shorter
  omega

theorem length_lt_of_expect {kind : Kind} {taken : Token} {left used : List Token}
    (read : expect kind (used ++ token :: tail) = .done taken (left ++ token :: tail)) :
    left.length < used.length := by
  have longer := congrArg List.length (expect_eq_done.mp read).1
  simp only [List.length_append, List.length_cons] at longer
  omega

theorem moreDefinitions_looksAhead : LooksAhead moreDefinitions := by
  intro used token tail other
  induction size : used.length using Nat.strong_induction_on generalizing used with
  | _ n ih =>
      have listed := fun first : Name => map_suffix moreDefinitions_suffix (first :: ·)
      rw [moreDefinitions_eq, moreDefinitions_eq]
      refine SameUpTo.ite .comma used ?_ (sameUpTo_done [] used)
      refine (expect_looksAhead .comma used token tail other).bind
        (fun _ rest => rest_bind_suffix (definition_suffix rest) listed) fun _ left separated => ?_
      refine (definition_looksAhead left token tail other).bind listed fun first after read => ?_
      have shorter := length_lt_of_expect separated
      have fewer := length_le_of_done (definition_suffix _) read
      exact (ih after.length (by omega) after rfl).map _

theorem definitions_looksAhead : LooksAhead definitions := by
  refine LooksAhead.ite .definition ?_ (looksAhead_done [])
  exact definition_looksAhead.bind (fun _ => map_suffix moreDefinitions_suffix _)
    fun _ => moreDefinitions_looksAhead.map _

theorem closeSet_looksAhead : LooksAhead closeSet := by
  rw [funext closeSet_eq]
  exact LooksAhead.ite .setClose ((expect_looksAhead .setClose).map _) (looksAhead_stuck fun _ => _)

theorem set_looksAhead : LooksAhead set := by
  have closed := fun items : List Name => map_suffix closeSet_suffix fun _ => items
  refine (expect_looksAhead .setOpen).bind (fun _ rest => ?_) fun _ => ?_
  · exact rest_bind_suffix (definitions_suffix rest) closed
  · exact definitions_looksAhead.bind closed fun items => closeSet_looksAhead.map _

theorem operand_looksAhead : LooksAhead operand := by
  have cases : operand = fun tokens => _ := funext operand_eq
  rw [cases]
  refine LooksAhead.ite .setOpen (set_looksAhead.map _) ?_
  exact LooksAhead.ite .dataPoint (dataPoint_looksAhead.map _) (looksAhead_stuck fun _ => _)

theorem subtrahend_looksAhead (operator : Token) : LooksAhead (subtrahend operator) :=
  LooksAhead.ite .setOpen set_looksAhead (looksAhead_stuck fun _ => _)

/-! ## Expressions -/

theorem chain_looksAhead (left : Expr) : LooksAhead (chain left) := by
  intro used token tail other
  induction size : used.length using Nat.strong_induction_on generalizing used left with
  | _ n ih =>
      rw [chain_eq, chain_eq]
      refine SameUpTo.ite .union used ?_ (SameUpTo.ite .setDifference used ?_ ?_)
      · refine (expect_looksAhead .union used token tail other).bind (fun _ rest =>
          rest_bind_suffix (operand_suffix rest) fun _ => chain_suffix _) fun _ after taken => ?_
        refine (operand_looksAhead after token tail other).bind (fun _ => chain_suffix _)
          fun right last read => ?_
        have shorter := length_lt_of_expect taken
        have fewer := length_le_of_done (operand_suffix _) read
        exact ih last.length (by omega) _ last rfl
      · refine (expect_looksAhead .setDifference used token tail other).bind (fun operator rest =>
          rest_bind_suffix (subtrahend_suffix operator rest) fun _ => chain_suffix _)
          fun operator after taken => ?_
        refine (subtrahend_looksAhead operator after token tail other).bind (fun _ => chain_suffix _)
          fun right last read => ?_
        have shorter := length_lt_of_expect taken
        have fewer := length_le_of_done (subtrahend_suffix operator _) read
        exact ih last.length (by omega) _ last rfl
      · refine SameUpTo.ite .setOpen used (sameUpTo_stuck _ used) ?_
        exact SameUpTo.ite .dataPoint used (sameUpTo_stuck _ used) (sameUpTo_done left used)

theorem expression_looksAhead : LooksAhead expression := by
  have started : LooksAhead fun tokens =>
      (operand tokens).bind fun first rest => chain (.operand first) rest :=
    operand_looksAhead.bind (fun first => chain_suffix _) fun first => chain_looksAhead _
  obtain ⟨cause, cases⟩ := exists_expression_eq
  rw [funext cases]
  exact LooksAhead.ite .setOpen started (LooksAhead.ite .dataPoint started (looksAhead_stuck cause))

/-! ## Equations -/

theorem equation_looksAhead : LooksAhead equation := by
  have valued := fun target : Name => map_suffix expression_suffix (Equation.mk target)
  refine dataPoint_looksAhead.bind (fun target rest => ?_) fun target => ?_
  · exact rest_bind_suffix (expect_suffix _ rest) fun _ => valued target
  · exact (expect_looksAhead .equals).bind (fun _ => valued target) fun _ =>
      expression_looksAhead.map _

theorem newLines_suffix (tokens : List Token) : (newLines tokens).rest <:+ tokens :=
  skipNewLines_suffix tokens

theorem newLines_looksAhead : LooksAhead newLines := by
  intro used token tail other
  induction used with
  | nil =>
      simp only [List.nil_append, newLines, skipNewLines]
      split
      · exact sameUpTo_of_suffix _ (skipNewLines_suffix tail)
      · exact sameUpTo_done () []
  | cons head used ih =>
      simp only [List.cons_append, newLines, skipNewLines]
      split
      · exact ih
      · exact sameUpTo_done () (head :: used)

theorem equations_looksAhead : LooksAhead equations := by
  intro used token tail other
  induction size : used.length using Nat.strong_induction_on generalizing used with
  | _ n ih =>
      have listed := fun first : Equation => map_suffix equations_suffix (first :: ·)
      have parted := fun (first : Equation) rest =>
        rest_bind_suffix (newLines_suffix rest) fun _ => listed first
      rw [equations_eq, equations_eq]
      refine SameUpTo.ite .endOfInput used (sameUpTo_done [] used) ?_
      refine (equation_looksAhead used token tail other).bind (fun first rest => ?_)
        fun first after read => ?_
      · split
        · exact List.suffix_refl rest
        · exact rest_bind_suffix (expect_suffix _ rest) fun _ => parted first
      refine SameUpTo.ite .endOfInput after (sameUpTo_done [first] after) ?_
      refine (expect_looksAhead .newLine after token tail other).bind
        (fun _ => parted first) fun _ left ended => ?_
      refine (newLines_looksAhead left token tail other).bind (fun _ => listed first)
        fun _ later skipped => ?_
      have whole := length_le_of_done (equation_suffix _) read
      have shorter := length_lt_of_expect ended
      have fewer := length_le_of_done (newLines_suffix _) skipped
      exact (ih later.length (by omega) later rfl).map _

theorem document_looksAhead : LooksAhead document := by
  have after : LooksAhead fun tokens => (newLines tokens).bind fun _ rest => equations rest :=
    newLines_looksAhead.bind (fun _ => equations_suffix) fun _ => equations_looksAhead
  refine after.bind (fun found rest => ?_) fun found => ?_
  · cases found <;> exact List.suffix_refl rest
  · cases found with
    | nil => exact looksAhead_stuck fun _ => _
    | cons first more => exact looksAhead_done _

end Parser

end Reaching.Source
