import Reaching.Proofs.Calls
import Reaching.Proofs.Settings.Rules

/-! # Settings are as given, or refused for a broken rule

`rules` writes out what data that is not blank has to keep, path by path, and `Fits` says that it
keeps all of it.  Settings are `AsGiven` if each has the value that stands at its path, or its default
where none stands there; so a setting depends on nothing else in the data, and the order of keys
(`Reordered`) counts for nothing.

Main fact: `judged`.  It holds for every lawful validator, and of every form of data in which a table
is blank just if it has no entries (`LawfulData`). -/
set_option autoImplicit false

namespace Reaching.Settings

open Solver (Scheme)
open Text (Unwritable)

/-- Of what tells which data is blank, only this matters to the settings. -/
class LawfulData (α : Type) [Data α] : Prop where
  isBlank_table {data : α} {entries : List (α × α)} :
    Data.view data = .table entries → (Data.isBlank data = true ↔ entries = [])

def rules : List (List String × Rule) := [
  ([], .table),
  (["lexer"], .table),
  (["lexer", "strict"], .flag),
  (["lexer", "semicolon_terminator"], .flag),
  (["lexer"], .only ["strict", "semicolon_terminator"]),
  (["solver"], .table),
  (["solver", "scheme"], .word),
  (["solver", "scheme"], .oneOf ["in_place", "jacobi"]),
  (["solver", "trace"], .flag),
  (["solver"], .only ["scheme", "trace"]),
  (["output"], .table),
  (["output", "format"], .word),
  (["output", "format"], .oneOf ["text", "json"]),
  (["output", "show_tree"], .flag),
  (["output"], .only ["format", "show_tree"]),
  ([], .only ["lexer", "solver", "output"])]

theorem rules_schema : schema.rules = rules := by decide

section Statements

variable {α : Type} [Data α]

def Fits (data : α) : Prop :=
  ∀ path rule part, (path, rule) ∈ rules → reach? path data = some part → rule.Kept part

def viewAt (data : α) (path : List String) (absent : View α) : View α :=
  ((reach? path data).map Data.view).getD absent

structure AsGiven (data : α) (settings : Settings) : Prop where
  strict : viewAt data ["lexer", "strict"] (.flag false) = .flag settings.dialect.strict
  semicolons :
    viewAt data ["lexer", "semicolon_terminator"] (.flag true) = .flag settings.dialect.semicolons
  scheme :
    viewAt data ["solver", "scheme"] (.word (some "in_place")) = .word (some settings.scheme.name)
  trace : viewAt data ["solver", "trace"] (.flag false) = .flag settings.trace
  format : viewAt data ["output", "format"] (.word (some "text")) =
    .word (some settings.format.name)
  showTree : viewAt data ["output", "show_tree"] (.flag false) = .flag settings.showTree

/-- The same data, but for the order of the entries of tables. -/
inductive Reordered : α → α → Prop
  | same (data : α) : Reordered data data
  | table {left right : α} {entries others : List (α × α)}
      (here : Data.view left = .table entries) (there : Data.view right = .table others)
      (keys : (entries.map Prod.fst).Perm (others.map Prod.fst))
      (parts : ∀ name one other, Data.get? name left = some one →
        Data.get? name right = some other → Reordered one other) : Reordered left right

/-- What becomes of data: just blank data and data that fits gives settings, which are as given; of
other data a rule is reported that it breaks, and none that it breaks stands on a shorter path.  There
is no report if the message on a broken rule cannot be written. -/
structure Judged (validator : Validator α) (data : α) : Prop where
  accepted :
    (∃ settings, ofData? validator data = .ok settings) ↔ Data.isBlank data = true ∨ Fits data
  given : ∀ settings, ofData? validator data = .ok settings → AsGiven data settings
  reordered : ∀ settings other, ofData? validator data = .ok settings → Reordered data other →
    ofData? validator other = .ok settings
  reported : ∀ violation message, ofData? validator data = .error (.violated violation message) →
    Broken rules data violation ∧ violation.breach.message = .ok message ∧
      ∀ other, Broken rules data other → violation.path.length ≤ other.path.length
  unreported : ∀ error, ofData? validator data = .error (.unwritable error) →
    ∃ violation, Broken rules data violation ∧ violation.breach.message = .error error

end Statements

/-! ## Broken rules -/

section Refusals

variable {α : Type} [Data α] {validator : Validator α} {data : α}

theorem fits_iff : Fits data ↔ ∀ violation, ¬ Broken rules data violation := by
  constructor
  · rintro fits ⟨path, breach⟩ ⟨rule, part, listed, reached, broken, _⟩
    exact broken (fits path rule part listed reached)
  · intro unbroken path rule part listed reached
    by_contra broken
    exact unbroken ⟨path, rule.breach part⟩ ⟨rule, part, listed, reached, broken, rfl⟩

theorem mem_violations (lawful : validator.Lawful) {violation : Violation α} :
    violation ∈ validator.violations schema data ↔ Broken rules data violation := by
  rw [lawful.listed, rules_schema]

theorem violations_eq_nil_iff (lawful : validator.Lawful) :
    validator.violations schema data = [] ↔ Fits data := by
  rw [List.eq_nil_iff_forall_not_mem, fits_iff]
  exact forall_congr' fun _ => not_congr (mem_violations lawful)

inductive Outcome (validator : Validator α) (data : α) : Except (Refusal α) Settings → Prop
  | blank (blank : Data.isBlank data = true) : Outcome validator data (.ok {})
  | read (filled : Data.isBlank data = false) (fits : Fits data) :
      Outcome validator data (.ok (read data))
  | violated {violation : Violation α} {message : String} (filled : Data.isBlank data = false)
      (reported : validator.reported? (validator.violations schema data) = some violation)
      (written : violation.breach.message = .ok message) :
      Outcome validator data (.error (.violated violation message))
  | unwritable {violation : Violation α} {error : Unwritable} (filled : Data.isBlank data = false)
      (broken : Broken rules data violation) (failed : violation.breach.message = .error error) :
      Outcome validator data (.error (.unwritable error))

theorem outcome (lawful : validator.Lawful) (data : α) :
    Outcome validator data (ofData? validator data) := by
  rw [ofData?]
  cases blank : Data.isBlank data with
  | true => exact .blank blank
  | false =>
      rw [if_neg Bool.false_ne_true, refusal?]
      cases reported : validator.reported? (validator.violations schema data) with
      | none => exact .read blank ((violations_eq_nil_iff lawful).mp (lawful.silent reported))
      | some violation =>
          have listed := (lawful.shortest reported).1
          -- All messages are written before one is taken, so any of them can stop the report.
          cases all : (validator.violations schema data).mapM fun violation =>
              violation.breach.message with
          | error error =>
              obtain ⟨other, member, failed⟩ := Calls.exists_error_of_mapM all
              exact .unwritable blank ((mem_violations lawful).mp member) failed
          | ok messages =>
              rw [Option.bind_eq_bind, Option.bind_some]
              cases own : violation.breach.message with
              | error error => exact .unwritable blank ((mem_violations lawful).mp listed) own
              | ok message => exact .violated blank reported own

end Refusals

/-! ## Settings as given -/

section Given

variable {α : Type} [Data α] {data : α}

theorem at?_eq (data : α) (part key : String) : at? data part key = reach? [part, key] data := by
  have last : reach? [key] = Data.get? (α := α) key := funext fun inner => Option.bind_fun_some _
  rw [reach?, last]
  rfl

theorem viewAt_flag {part key : String} (absent : Bool)
    (kept : ∀ found, reach? [part, key] data = some found → Rule.flag.Kept found) :
    viewAt data [part, key] (.flag absent) = .flag (flag data part key absent) := by
  rw [viewAt, flag, at?_eq]
  cases reached : reach? [part, key] data with
  | none => rfl
  | some found =>
      obtain ⟨value, view⟩ := kept found reached
      simp [view]

/-- A choice is the one that is named, if each word that may stand there names one. -/
theorem viewAt_choice {β : Type} {named? : String → Option β} {name : β → String}
    {options : List String} {part key : String} (absent : β)
    (known : ∀ word ∈ options, ∃ choice, named? word = some choice ∧ name choice = word)
    (kept : ∀ found, reach? [part, key] data = some found → (Rule.oneOf options).Kept found) :
    viewAt data [part, key] (.word (some (name absent))) =
      .word (some (name (((word? data part key).bind named?).getD absent))) := by
  rw [viewAt, word?, at?_eq]
  cases reached : reach? [part, key] data with
  | none => rfl
  | some found =>
      obtain ⟨word, listed, view⟩ := kept found reached
      obtain ⟨choice, given, same⟩ := known word listed
      simp [view, given, same]

theorem exists_scheme : ∀ word ∈ ["in_place", "jacobi"],
    ∃ scheme, (Scheme.ofName? word).toOption = some scheme ∧ scheme.name = word :=
  List.forall_mem_cons.mpr ⟨⟨.inPlace, rfl, rfl⟩, List.forall_mem_singleton.mpr ⟨.jacobi, rfl, rfl⟩⟩

theorem exists_format : ∀ word ∈ ["text", "json"],
    ∃ format, Format.ofName? word = some format ∧ format.name = word :=
  List.forall_mem_cons.mpr ⟨⟨.text, rfl, rfl⟩, List.forall_mem_singleton.mpr ⟨.json, rfl, rfl⟩⟩

theorem asGiven_read (fits : Fits data) : AsGiven data (read data) where
  strict := viewAt_flag false fun found => fits _ _ found (by decide)
  semicolons := viewAt_flag true fun found => fits _ _ found (by decide)
  scheme := viewAt_choice .inPlace exists_scheme fun found => fits _ _ found (by decide)
  trace := viewAt_flag false fun found => fits _ _ found (by decide)
  format := viewAt_choice .text exists_format fun found => fits _ _ found (by decide)
  showTree := viewAt_flag false fun found => fits _ _ found (by decide)

theorem viewAt_absent {key : String} (bare : Data.entries data = []) (path : List String)
    (absent : View α) : viewAt data (key :: path) absent = absent := by
  rw [viewAt, reach?, get?_of_entries_eq_nil bare]
  rfl

theorem asGiven_default (bare : Data.entries data = []) : AsGiven data {} where
  strict := viewAt_absent bare _ _
  semicolons := viewAt_absent bare _ _
  scheme := viewAt_absent bare _ _
  trace := viewAt_absent bare _ _
  format := viewAt_absent bare _ _
  showTree := viewAt_absent bare _ _

theorem entries_of_isBlank [LawfulData α] (blank : Data.isBlank data = true) :
    Data.entries data = [] := by
  by_cases table : ∃ entries, Data.view data = .table entries
  · obtain ⟨entries, view⟩ := table
    rw [entries_of_table view]
    exact (LawfulData.isBlank_table view).mp blank
  · exact entries_eq_nil (not_exists.mp table)

theorem scheme_name_injective : Function.Injective Scheme.name := by
  rintro (_ | _) (_ | _) same <;> simp [Scheme.name] at same ⊢

theorem format_name_injective : Function.Injective Format.name := by
  rintro (_ | _) (_ | _) same <;> simp [Format.name] at same ⊢

/-- Data gives each setting one value only. -/
theorem AsGiven.unique {settings others : Settings} (one : AsGiven data settings)
    (other : AsGiven data others) : settings = others := by
  have strict := View.flag.inj (one.strict.symm.trans other.strict)
  have semicolons := View.flag.inj (one.semicolons.symm.trans other.semicolons)
  have scheme := scheme_name_injective
    (Option.some.inj (View.word.inj (one.scheme.symm.trans other.scheme)))
  have trace := View.flag.inj (one.trace.symm.trans other.trace)
  have format := format_name_injective
    (Option.some.inj (View.word.inj (one.format.symm.trans other.format)))
  have showTree := View.flag.inj (one.showTree.symm.trans other.showTree)
  obtain ⟨⟨_, _⟩, _, _, _, _⟩ := settings
  obtain ⟨⟨_, _⟩, _, _, _, _⟩ := others
  cases strict
  cases semicolons
  cases scheme
  cases trace
  cases format
  cases showTree
  rfl

end Given

/-! ## The order of keys -/

section Order

variable {α : Type} [Data α] {left right : α}

theorem exists_get?_iff {name : String} {data : α} :
    (∃ part, Data.get? name data = some part) ↔
      ∃ key ∈ (Data.entries data).map Prod.fst, Data.isWord name key = true := by
  rw [← Option.isSome_iff_exists, Data.get?, Option.isSome_map, List.find?_isSome]
  simp only [List.mem_map, exists_exists_and_eq_and]

theorem Reordered.get? (reordered : Reordered left right) {name : String} {part : α}
    (found : Data.get? name left = some part) :
    ∃ other, Data.get? name right = some other ∧ Reordered part other := by
  cases reordered with
  | same => exact ⟨part, found, .same part⟩
  | table here there keys parts =>
      obtain ⟨key, listed, word⟩ := exists_get?_iff.mp ⟨part, found⟩
      rw [entries_of_table here] at listed
      obtain ⟨other, also⟩ : ∃ other, Data.get? name right = some other :=
        exists_get?_iff.mpr ⟨key, entries_of_table there ▸ keys.mem_iff.mp listed, word⟩
      exact ⟨other, also, parts name part other found also⟩

theorem Reordered.symm (reordered : Reordered left right) : Reordered right left := by
  induction reordered with
  | same data => exact .same data
  | table here there keys _ ih =>
      exact .table there here keys.symm fun name one other found also => ih name other one also found

theorem Reordered.reach? {path : List String} {part : α} (reordered : Reordered left right)
    (reached : reach? path left = some part) :
    ∃ other, Settings.reach? path right = some other ∧ Reordered part other := by
  induction path generalizing left right with
  | nil =>
      cases reached
      exact ⟨right, rfl, reordered⟩
  | cons key path ih =>
      obtain ⟨inner, found, further⟩ := reach?_cons.mp reached
      obtain ⟨other, also, inside⟩ := reordered.get? found
      obtain ⟨last, reached, same⟩ := ih inside further
      exact ⟨last, reach?_cons.mpr ⟨other, also, reached⟩, same⟩

theorem Reordered.kept (reordered : Reordered left right) {rule : Rule} (kept : rule.Kept left) :
    rule.Kept right := by
  cases reordered with
  | same => exact kept
  | table here there keys parts =>
      cases rule with
      | flag =>
          obtain ⟨_, view⟩ := kept
          cases here.symm.trans view
      | word =>
          obtain ⟨_, view⟩ := kept
          cases here.symm.trans view
      | oneOf options =>
          obtain ⟨_, _, view⟩ := kept
          cases here.symm.trans view
      | table => exact ⟨_, there⟩
      | only names =>
          rw [Rule.kept_only_iff, otherKeys, entries_of_table here] at kept
          rw [Rule.kept_only_iff, otherKeys, entries_of_table there]
          exact List.perm_nil.mp (kept ▸ (keys.filter _).symm)

theorem Reordered.eq_of_bare (reordered : Reordered left right)
    (bare : ∀ entries, Data.view left ≠ .table entries) : right = left := by
  cases reordered with
  | same => rfl
  | table here => exact absurd here (bare _)

theorem Reordered.viewAt {path : List String} {absent view : View α}
    (reordered : Reordered left right) (bare : ∀ entries, view ≠ .table entries)
    (shown : viewAt left path absent = view) : Settings.viewAt right path absent = view := by
  rw [Settings.viewAt] at shown ⊢
  cases here : Settings.reach? path left with
  | none =>
      cases there : Settings.reach? path right with
      | none => rw [← shown, here]
      | some part =>
          obtain ⟨other, reached, _⟩ := reordered.symm.reach? there
          cases here.symm.trans reached
  | some part =>
      obtain ⟨other, there, inside⟩ := reordered.reach? here
      rw [here] at shown
      obtain rfl := inside.eq_of_bare fun entries table => bare entries (shown ▸ table)
      rw [there, ← shown]

theorem AsGiven.of_reordered {settings : Settings} (given : AsGiven left settings)
    (reordered : Reordered left right) : AsGiven right settings where
  strict := reordered.viewAt nofun given.strict
  semicolons := reordered.viewAt nofun given.semicolons
  scheme := reordered.viewAt nofun given.scheme
  trace := reordered.viewAt nofun given.trace
  format := reordered.viewAt nofun given.format
  showTree := reordered.viewAt nofun given.showTree

theorem Fits.of_reordered (fits : Fits left) (reordered : Reordered left right) : Fits right := by
  intro path rule part listed reached
  obtain ⟨other, there, inside⟩ := reordered.symm.reach? reached
  exact inside.symm.kept (fits path rule other listed there)

theorem isBlank_of_reordered [LawfulData α] (reordered : Reordered left right)
    (blank : Data.isBlank left = true) : Data.isBlank right = true := by
  cases reordered with
  | same => exact blank
  | table here there keys parts =>
      have none := (LawfulData.isBlank_table here).mp blank
      subst none
      exact (LawfulData.isBlank_table there).mpr (List.map_eq_nil_iff.mp (List.nil_perm.mp keys))

end Order

/-! ## Main result -/

section Main

variable {α : Type} [Data α] {validator : Validator α} (lawful : validator.Lawful) {data : α}

include lawful

theorem exists_settings_iff :
    (∃ settings, ofData? validator data = .ok settings) ↔
      Data.isBlank data = true ∨ Fits data := by
  have found := outcome lawful data
  constructor
  · rintro ⟨settings, read⟩
    rw [read] at found
    cases found with
    | blank blank => exact .inl blank
    | read _ fits => exact .inr fits
  · intro allowed
    cases result : ofData? validator data with
    | ok settings => exact ⟨settings, rfl⟩
    | error refusal =>
        rw [result] at found
        have refused : Data.isBlank data = false ∧ ¬ Fits data := by
          cases found with
          | violated filled reported =>
              have broken := (mem_violations lawful).mp (lawful.shortest reported).1
              exact ⟨filled, fun fits => fits_iff.mp fits _ broken⟩
          | unwritable filled broken => exact ⟨filled, fun fits => fits_iff.mp fits _ broken⟩
        rcases allowed with blank | fits
        · cases refused.1.symm.trans blank
        · exact absurd fits refused.2

theorem asGiven_of_ofData? [LawfulData α] {settings : Settings}
    (read : ofData? validator data = .ok settings) : AsGiven data settings := by
  have found := outcome lawful data
  rw [read] at found
  cases found with
  | blank blank => exact asGiven_default (entries_of_isBlank blank)
  | read _ fits => exact asGiven_read fits

theorem judged [LawfulData α] (data : α) : Judged validator data where
  accepted := exists_settings_iff lawful
  given _ := asGiven_of_ofData? lawful
  reordered settings other read reordered := by
    have allowed := ((exists_settings_iff lawful).mp ⟨settings, read⟩).imp
      (isBlank_of_reordered reordered) fun fits => fits.of_reordered reordered
    obtain ⟨others, again⟩ := (exists_settings_iff lawful).mpr allowed
    obtain rfl := (asGiven_of_ofData? lawful again).unique
      ((asGiven_of_ofData? lawful read).of_reordered reordered)
    exact again
  reported violation message refused := by
    have found := outcome lawful data
    rw [refused] at found
    cases found with
    | violated _ reported written =>
        obtain ⟨listed, shortest⟩ := lawful.shortest reported
        exact ⟨(mem_violations lawful).mp listed, written, fun other broken =>
          shortest other ((mem_violations lawful).mpr broken)⟩
  unreported error refused := by
    have found := outcome lawful data
    rw [refused] at found
    cases found with
    | unwritable _ broken failed => exact ⟨_, broken, failed⟩

end Main

end Reaching.Settings
