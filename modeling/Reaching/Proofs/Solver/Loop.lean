import Mathlib
import Reaching.Proofs.Solver.Undefined

/-! # The loop and its books

A system `Returns` a result if a run from its seed, however long it may have to be, ends with a pass
that changes nothing.  `returns_iff_solve`: it does so exactly if `solve` gives that result, so the
budget that `solve` sets itself is never felt.

A run tells its counts from the list of its states.  `loop` makes the same passes but keeps its
books as it goes: a `Ledger` counts the passes, remembers the last that changed something, copies
the states if it is told to and lists what it has reported.  `loop_eq_iterate` says that the books
agree with the states of the run, wherever the run breaks off.

Main fact: `loop_closes_once_unchanged` (the books are closed exactly if some pass leaves its state
unchanged, and what stands in them then). -/
set_option autoImplicit false

namespace Reaching.Solver

variable {scheme : Scheme} {equations : List Equation}

/-! ## Runs that may be as long as they need -/

/-- Some run from the seed ends with a pass that changes nothing, and gives the result. -/
def Returns (scheme : Scheme) (equations : List Equation) (result : Result) : Prop :=
  ∃ budget run, iterate scheme equations budget (seed equations) = .ok run ∧
    run.settled = true ∧ run.result (seed equations) = result

/-- A run that has settled would not have used a larger budget. -/
theorem iterate_of_le {budget more : Nat} (within : budget ≤ more) : ∀ {state : State} {run : Run},
    iterate scheme equations budget state = .ok run → run.settled = true →
      iterate scheme equations more state = .ok run := by
  induction budget generalizing more with
  | zero =>
      intro state run ran settled
      cases ran
      cases settled
  | succ budget ih =>
      intro state run ran settled
      obtain ⟨larger, rfl⟩ := Nat.exists_eq_add_one_of_ne_zero (Nat.ne_of_gt (by omega : 0 < more))
      obtain ⟨next, made, rest⟩ := iterate_succ_eq_ok.mp ran
      refine iterate_succ_eq_ok.mpr ⟨next, made, rest.imp_right ?_⟩
      rintro ⟨changed, later, went, rfl⟩
      exact ⟨changed, later, ih (Nat.le_of_succ_le_succ within) went settled, rfl⟩

theorem closed_of_defined (defined : ∀ name, firstUndefined equations ≠ some name) :
    Closed equations :=
  firstUndefined_eq_none_iff.mp (Option.eq_none_iff_forall_ne_some.mpr defined)

theorem closed_of_pass {next : State} (made : pass scheme equations (seed equations) = .ok next) :
    Closed equations := by
  refine closed_of_defined fun name undefined => ?_
  rw [pass_of_undefined scheme undefined] at made
  cases made

theorem closed_of_solve {outcome : Option Result} (solved : solve scheme equations = .ok outcome) :
    Closed equations := by
  refine closed_of_defined fun name undefined => ?_
  rw [solve_of_undefined scheme undefined] at solved
  cases solved

/-- A run that ends has made a pass, so it is known that no data point is undefined. -/
theorem closed_of_settled {budget : Nat} {run : Run}
    (ran : iterate scheme equations budget (seed equations) = .ok run)
    (settled : run.settled = true) : Closed equations := by
  cases budget with
  | zero =>
      cases ran
      cases settled
  | succ budget =>
      obtain ⟨next, made, _⟩ := iterate_succ_eq_ok.mp ran
      exact closed_of_pass made

theorem exists_settlesAt_of_settled {budget : Nat} {run : Run}
    (ran : iterate scheme equations budget (seed equations) = .ok run)
    (settled : run.settled = true) :
    ∃ last, SettlesAt scheme equations last ∧ run = settledRun scheme equations last := by
  have closed := closed_of_settled ran settled
  obtain ⟨again, reran, _, unchanged⟩ := iterate_spec closed scheme budget 0
  obtain rfl : run = again := Except.ok.inj (ran.symm.trans reran)
  obtain ⟨last, early, settles, _⟩ := exists_settlesAt_of_unchanged (unchanged settled)
  have longer := iterate_of_le (Nat.le_succ budget) ran settled
  rw [iterate_of_settlesAt closed scheme settles (Nat.lt_succ_of_le early)] at longer
  exact ⟨last, settles, (Except.ok.inj longer).symm⟩

theorem returns_iff_settlesAt {result : Result} :
    Returns scheme equations result ↔ Closed equations ∧
      ∃ last, SettlesAt scheme equations last ∧
        result = ⟨max last 1, last + 1, stateAfter scheme equations last,
          (settledRun scheme equations last).states⟩ := by
  constructor
  · rintro ⟨budget, run, ran, settled, rfl⟩
    obtain ⟨last, settles, rfl⟩ := exists_settlesAt_of_settled ran settled
    exact ⟨closed_of_settled ran settled, last, settles, result_settledRun scheme equations settles⟩
  · rintro ⟨closed, last, settles, rfl⟩
    exact ⟨last + 1, settledRun scheme equations last,
      iterate_of_settlesAt closed scheme settles (Nat.lt_succ_self last), rfl,
      result_settledRun scheme equations settles⟩

/-- The number of its states is budget enough for every system. -/
theorem returns_iff_solve {result : Result} :
    Returns scheme equations result ↔ solve scheme equations = .ok (some result) := by
  rw [returns_iff_settlesAt]
  constructor
  · rintro ⟨closed, settled⟩
    exact (solve_eq_some_iff closed scheme).mpr settled
  · intro solved
    have closed := closed_of_solve solved
    exact ⟨closed, (solve_eq_some_iff closed scheme).mp solved⟩

/-! ## The books -/

structure Ledger where
  passes : Nat
  lastChange : Nat
  previous : State
  snapshots : List State
  reports : List (Nat × State)
  deriving DecidableEq

namespace Ledger

def opened (equations : List Equation) : Ledger := ⟨0, 0, seed equations, [], []⟩

def enter (recording : Bool) (ledger : Ledger) (current : State) : Ledger where
  passes := ledger.passes + 1
  lastChange := if current = ledger.previous then ledger.lastChange else ledger.passes + 1
  previous := current
  snapshots := if recording then ledger.snapshots ++ [current] else ledger.snapshots
  reports := ledger.reports ++ [(ledger.passes + 1, current)]

def result (ledger : Ledger) : Result :=
  ⟨max ledger.lastChange 1, ledger.passes, ledger.previous, ledger.snapshots⟩

end Ledger

/-- Makes passes and enters each of them, until one changes nothing or the budget is spent; tells
which of the two it was. -/
def loop (scheme : Scheme) (equations : List Equation) (recording : Bool) :
    Nat → Ledger → Except Undefined (Ledger × Bool)
  | 0, ledger => .ok (ledger, false)
  | budget + 1, ledger => do
    let current ← pass scheme equations ledger.previous
    if current = ledger.previous then return (ledger.enter recording current, true)
    else loop scheme equations recording budget (ledger.enter recording current)

def Closes (scheme : Scheme) (equations : List Equation) (recording : Bool) (ledger : Ledger) :
    Prop :=
  ∃ budget, loop scheme equations recording budget (.opened equations) = .ok (ledger, true)

theorem loop_eq_iterate (recording : Bool) : ∀ (budget : Nat) (ledger : Ledger),
    loop scheme equations recording budget ledger =
      (iterate scheme equations budget ledger.previous).map fun run =>
        (run.states.foldl (Ledger.enter recording) ledger, run.settled) := by
  intro budget
  induction budget with
  | zero => intro ledger; rfl
  | succ budget ih =>
      intro ledger
      rw [loop, iterate]
      cases made : pass scheme equations ledger.previous with
      | error undefined => rfl
      | ok current =>
          by_cases stable : current = ledger.previous
          · simp only [bind, Except.bind, if_pos stable]
            rfl
          · simp only [bind, Except.bind, if_neg stable, ih]
            change (iterate scheme equations budget current).map _ = _
            cases iterate scheme equations budget current with
            | error undefined => rfl
            | ok later => rfl

def ledgerAfter (scheme : Scheme) (equations : List Equation) (recording : Bool) (passes : Nat) :
    Ledger where
  passes := passes
  lastChange := passes
  previous := stateAfter scheme equations passes
  snapshots := if recording then (List.range' 1 passes).map (stateAfter scheme equations) else []
  reports := (List.range' 1 passes).map fun number => (number, stateAfter scheme equations number)

/-- The books at the end: the pass that changed nothing is counted, but it is no change. -/
def closedLedger (scheme : Scheme) (equations : List Equation) (recording : Bool) (last : Nat) :
    Ledger :=
  { ledgerAfter scheme equations recording (last + 1) with lastChange := last }

theorem enter_ledgerAfter_of_ne (recording : Bool) {passes : Nat}
    (changed : stateAfter scheme equations (passes + 1) ≠ stateAfter scheme equations passes) :
    (ledgerAfter scheme equations recording passes).enter recording
      (stateAfter scheme equations (passes + 1)) =
        ledgerAfter scheme equations recording (passes + 1) := by
  cases recording <;>
    simp [ledgerAfter, Ledger.enter, changed, List.range'_1_concat, Nat.add_comm 1 passes]

theorem enter_ledgerAfter_of_eq (recording : Bool) {passes : Nat}
    (stable : stateAfter scheme equations (passes + 1) = stateAfter scheme equations passes) :
    (ledgerAfter scheme equations recording passes).enter recording
      (stateAfter scheme equations (passes + 1)) =
        closedLedger scheme equations recording passes := by
  cases recording <;>
    simp [ledgerAfter, closedLedger, Ledger.enter, stable, List.range'_1_concat,
      Nat.add_comm 1 passes]

theorem foldl_enter_of_changing (recording : Bool) : ∀ passes : Nat,
    (∀ k < passes, stateAfter scheme equations (k + 1) ≠ stateAfter scheme equations k) →
      ((List.range' 1 passes).map (stateAfter scheme equations)).foldl (Ledger.enter recording)
        (.opened equations) = ledgerAfter scheme equations recording passes := by
  intro passes
  induction passes with
  | zero =>
      intro _
      cases recording <;> rfl
  | succ passes ih =>
      intro changing
      rw [List.range'_1_concat, List.map_append, List.foldl_append,
        ih fun k before => changing k (Nat.lt_succ_of_lt before), Nat.add_comm 1 passes]
      exact enter_ledgerAfter_of_ne recording (changing passes (Nat.lt_succ_self passes))

theorem SettlesAt.foldl_enter {last : Nat} (settles : SettlesAt scheme equations last)
    (recording : Bool) :
    (settledRun scheme equations last).states.foldl (Ledger.enter recording) (.opened equations) =
      closedLedger scheme equations recording last := by
  rw [settledRun, List.range'_1_concat, List.map_append, List.foldl_append,
    foldl_enter_of_changing recording last settles.changing, Nat.add_comm 1 last]
  exact enter_ledgerAfter_of_eq recording settles.unchanged

theorem closes_iff_settlesAt {recording : Bool} {ledger : Ledger} :
    Closes scheme equations recording ledger ↔ Closed equations ∧
      ∃ last, SettlesAt scheme equations last ∧
        ledger = closedLedger scheme equations recording last := by
  constructor
  · rintro ⟨budget, ended⟩
    rw [loop_eq_iterate] at ended
    change (iterate scheme equations budget (seed equations)).map _ = _ at ended
    cases ran : iterate scheme equations budget (seed equations) with
    | error undefined =>
        rw [ran] at ended
        cases ended
    | ok run =>
        rw [ran] at ended
        obtain ⟨rfl, settled⟩ := Prod.ext_iff.mp (Except.ok.inj ended)
        obtain ⟨last, settles, rfl⟩ := exists_settlesAt_of_settled ran settled
        exact ⟨closed_of_settled ran settled, last, settles, settles.foldl_enter recording⟩
  · rintro ⟨closed, last, settles, rfl⟩
    refine ⟨last + 1, ?_⟩
    rw [loop_eq_iterate]
    have ran := iterate_of_settlesAt closed scheme settles (Nat.lt_succ_self last)
    change (iterate scheme equations (last + 1) (seed equations)).map _ = _
    rw [ran]
    exact congrArg Except.ok (Prod.ext (settles.foldl_enter recording) rfl)

/-! ## What the books say -/

theorem settlesAt_iff_isLeast {last : Nat} :
    SettlesAt scheme equations last ↔
      IsLeast {k | stateAfter scheme equations (k + 1) = stateAfter scheme equations k} last := by
  constructor
  · intro settles
    refine ⟨settles.unchanged, fun k stable => ?_⟩
    exact Nat.le_of_not_lt fun before => settles.changing k before stable
  · rintro ⟨stable, least⟩
    exact ⟨stable, fun k before early => Nat.not_le_of_lt before (least early)⟩

/-- The number of iterations is that of the first pass that ends in the last state. -/
theorem SettlesAt.isLeast_iterations {last : Nat} (settles : SettlesAt scheme equations last) :
    IsLeast {j | 1 ≤ j ∧ stateAfter scheme equations j = stateAfter scheme equations last}
      (max last 1) := by
  constructor
  · refine ⟨le_max_right last 1, ?_⟩
    rcases Nat.eq_zero_or_pos last with rfl | positive
    · exact settles.unchanged
    · rw [Nat.max_eq_left positive]
  · rintro j ⟨positive, same⟩
    refine max_le (Nat.le_of_not_lt fun before => ?_) positive
    have equal := settles.injOn (Set.mem_Iic.mpr (Nat.le_of_lt before)) Set.self_mem_Iic same
    exact Nat.ne_of_lt before equal

structure Books (states : Nat → State) (last : Nat) (recording : Bool) (ledger : Ledger) :
    Prop where
  passes : ledger.result.passes = last + 1
  iterations : ledger.result.iterations = max last 1
  solution : ledger.result.solution = states last
  snapshots : ledger.result.snapshots =
    if recording then (List.range' 1 (last + 1)).map states else []
  reports : ledger.reports = (List.range' 1 (last + 1)).map fun number => (number, states number)

theorem SettlesAt.books {last : Nat} (settles : SettlesAt scheme equations last)
    (recording : Bool) :
    Books (stateAfter scheme equations) last recording
      (closedLedger scheme equations recording last) where
  passes := rfl
  iterations := rfl
  solution := settles.unchanged
  snapshots := rfl
  reports := rfl

/-- The loop ends if some pass leaves its state unchanged, and only then; the first such pass
decides what stands in the books. -/
structure ClosesOnceUnchanged (scheme : Scheme) (equations : List Equation)
    (states : Nat → State) : Prop where
  closes : ∀ recording, (∃ ledger, Closes scheme equations recording ledger) ↔
    ∃ k, states (k + 1) = states k
  books : ∀ recording ledger, Closes scheme equations recording ledger →
    ∀ last, IsLeast {k | states (k + 1) = states k} last → Books states last recording ledger
  different : ∀ last, IsLeast {k | states (k + 1) = states k} last → Set.InjOn states (Set.Iic last)
  iterations : ∀ last, IsLeast {k | states (k + 1) = states k} last →
    IsLeast {j | 1 ≤ j ∧ states j = states last} (max last 1)
  solved : ∀ result, solve scheme equations = .ok (some result) ↔
    ∃ ledger, Closes scheme equations true ledger ∧ ledger.result = result

theorem loop_closes_once_unchanged (equations : List Equation) (closed : Closed equations)
    (scheme : Scheme) :
    ∃ states, Course scheme equations states ∧ ClosesOnceUnchanged scheme equations states := by
  refine ⟨_, course_stateAfter closed scheme, ?_⟩
  constructor
  · intro recording
    constructor
    · rintro ⟨ledger, closes⟩
      obtain ⟨_, last, settles, _⟩ := closes_iff_settlesAt.mp closes
      exact ⟨last, settles.unchanged⟩
    · rintro ⟨k, stable⟩
      obtain ⟨last, _, settles, _⟩ := exists_settlesAt_of_unchanged stable
      exact ⟨_, closes_iff_settlesAt.mpr ⟨closed, last, settles, rfl⟩⟩
  · intro recording ledger closes last least
    obtain ⟨_, other, settles, rfl⟩ := closes_iff_settlesAt.mp closes
    obtain rfl : last = other := least.unique (settlesAt_iff_isLeast.mp settles)
    exact settles.books recording
  · exact fun last least => (settlesAt_iff_isLeast.mpr least).injOn
  · exact fun last least => (settlesAt_iff_isLeast.mpr least).isLeast_iterations
  · intro result
    rw [← returns_iff_solve, returns_iff_settlesAt]
    constructor
    · rintro ⟨_, last, settles, rfl⟩
      refine ⟨_, closes_iff_settlesAt.mpr ⟨closed, last, settles, rfl⟩, ?_⟩
      rw [Ledger.result, closedLedger, ledgerAfter, settles.unchanged]
      rfl
    · rintro ⟨ledger, closes, rfl⟩
      obtain ⟨_, last, settles, rfl⟩ := closes_iff_settlesAt.mp closes
      refine ⟨closed, last, settles, ?_⟩
      rw [Ledger.result, closedLedger, ledgerAfter, settles.unchanged]
      rfl

def retracted : List Equation :=
  [⟨"L1", .difference (.definition "d1") (.dataPoint "L2")⟩,
    ⟨"L3", .dataPoint "L1"⟩,
    ⟨"L2", .union (.dataPoint "L3") (.dataPoint "L2")⟩,
    ⟨"L3", .set [.dataPoint "L1", .definition "d3"]⟩]

theorem loop_closes_once_unchanged_retracted :
    Closed retracted ∧ ∃ states, Course .inPlace retracted states ∧
      ClosesOnceUnchanged .inPlace retracted states := by
  have closed : Closed retracted := by decide
  exact ⟨closed, loop_closes_once_unchanged retracted closed .inPlace⟩

example : (loop .inPlace retracted false 9 (.opened retracted)).toOption.map
    (fun books => (books.1.lastChange, books.1.reports.map Prod.fst, books.2)) =
      some (2, [1, 2, 3], true) := by decide +kernel

end Reaching.Solver
