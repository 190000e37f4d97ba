import Mathlib.Data.List.Basic
import Reaching.Settings.Basic

/-! # The rules of a schema

A schema says of each path which rules hold for what stands there (`Schema.rules`).  A path of keys
leads to one part of the data at most (`reach?`), and a rule is broken if the path on which it stands
leads to a part that does not keep it (`Broken`).

A validator is lawful if it lists the rules that are broken and reports one whose path is shortest.
Only this is asked of it in what follows, and the standard one is lawful (`standard_lawful`). -/
set_option autoImplicit false

namespace Reaching.Settings

section Paths

variable {α : Type} [Data α]

def reach? : List String → α → Option α
  | [], data => some data
  | key :: path, data => (Data.get? key data).bind (reach? path)

theorem reach?_cons {key : String} {path : List String} {data part : α} :
    reach? (key :: path) data = some part ↔
      ∃ inner, Data.get? key data = some inner ∧ reach? path inner = some part :=
  Option.bind_eq_some_iff

theorem entries_of_table {data : α} {entries : List (α × α)}
    (table : Data.view data = .table entries) : Data.entries data = entries := by
  rw [Data.entries, table]

theorem entries_eq_nil {data : α} (bare : ∀ entries, Data.view data ≠ .table entries) :
    Data.entries data = [] := by
  rw [Data.entries]
  split
  · rename_i entries table
    exact absurd table (bare entries)
  · rfl

theorem get?_of_entries_eq_nil {data : α} (nothing : Data.entries data = []) (name : String) :
    Data.get? name data = none := by
  rw [Data.get?, nothing]
  rfl

def otherKeys (names : List String) (data : α) : List α :=
  ((Data.entries data).map Prod.fst).filter fun key => !names.any fun name => Data.isWord name key

end Paths

/-! ## Rules -/

inductive Rule where
  | flag
  | word
  | table
  | oneOf (options : List String)
  | only (keys : List String)
  deriving DecidableEq, Repr

namespace Rule

variable {α : Type} [Data α]

/-- A rule on the keys of a table says nothing of what is no table. -/
def Kept (part : α) : Rule → Prop
  | flag => ∃ value, Data.view part = .flag value
  | word => ∃ text, Data.view part = .word text
  | table => ∃ entries, Data.view part = .table entries
  | oneOf options => ∃ name ∈ options, Data.view part = .word (some name)
  | only keys => ∀ entry ∈ Data.entries part, ∃ name ∈ keys, Data.isWord name entry.1 = true

def breach (part : α) : Rule → Breach α
  | flag => .notOfType part "boolean"
  | word => .notOfType part "string"
  | table => .notOfType part "object"
  | oneOf options => .notOneOf part options
  | only keys => .unexpected (otherKeys keys part)

theorem kept_only_iff {keys : List String} {part : α} :
    (only keys).Kept part ↔ otherKeys keys part = [] := by
  rw [otherKeys, List.filter_eq_nil_iff, List.forall_mem_map]
  simp [Kept]

def under (key : String) (placed : List String × Rule) : List String × Rule :=
  (key :: placed.1, placed.2)

end Rule

mutual

def Schema.rules : Schema → List (List String × Rule)
  | .boolean => [([], .flag)]
  | .choice options => [([], .word)] ++ [([], .oneOf options)]
  | .group properties =>
    [([], .table)] ++ Schema.rulesIn properties ++ [([], .only (properties.map Prod.fst))]

def Schema.rulesIn : List (String × Schema) → List (List String × Rule)
  | [] => []
  | (key, schema) :: rest => schema.rules.map (Rule.under key) ++ Schema.rulesIn rest

end

/-- A rule that stands at the path of the violation is broken by what the path leads to. -/
def Broken {α : Type} [Data α] (rules : List (List String × Rule)) (data : α)
    (violation : Violation α) : Prop :=
  ∃ rule part, (violation.path, rule) ∈ rules ∧ reach? violation.path data = some part ∧
    ¬ rule.Kept part ∧ violation.breach = rule.breach part

section Violations

variable {α : Type} [Data α] {data : α} {violation : Violation α}

theorem broken_nil : ¬ Broken [] data violation := by
  rintro ⟨_, _, member, _⟩
  cases member

theorem broken_append {first second : List (List String × Rule)} :
    Broken (first ++ second) data violation ↔
      Broken first data violation ∨ Broken second data violation := by
  simp only [Broken, List.mem_append, or_and_right, exists_or]

theorem broken_here {rule : Rule} :
    Broken [([], rule)] data violation ↔
      ¬ rule.Kept data ∧ violation = ⟨[], rule.breach data⟩ := by
  obtain ⟨path, breach⟩ := violation
  constructor
  · rintro ⟨_, part, member, reached, broken, same⟩
    cases List.mem_singleton.mp member
    cases reached
    cases same
    exact ⟨broken, rfl⟩
  · rintro ⟨broken, same⟩
    cases same
    exact ⟨rule, data, List.mem_singleton.mpr rfl, rfl, broken, rfl⟩

theorem broken_under {key : String} {rules : List (List String × Rule)} :
    Broken (rules.map (Rule.under key)) data violation ↔
      ∃ part inner, Data.get? key data = some part ∧ Broken rules part inner ∧
        inner.under key = violation := by
  obtain ⟨path, breach⟩ := violation
  constructor
  · rintro ⟨rule, part, member, reached, broken, same⟩
    obtain ⟨⟨inside, law⟩, placed, equal⟩ := List.mem_map.mp member
    cases equal
    obtain ⟨inner, found, further⟩ := reach?_cons.mp reached
    exact ⟨inner, ⟨inside, breach⟩, found, ⟨law, part, placed, further, broken, same⟩, rfl⟩
  · rintro ⟨inner, ⟨inside, _⟩, found, ⟨rule, part, placed, further, broken, same⟩, equal⟩
    cases equal
    exact ⟨rule, part, List.mem_map.mpr ⟨_, placed, rfl⟩, reach?_cons.mpr ⟨inner, found, further⟩,
      broken, same⟩

theorem not_broken_rulesIn (bare : Data.entries data = []) (properties : List (String × Schema)) :
    ¬ Broken (Schema.rulesIn properties) data violation := by
  induction properties with
  | nil => exact broken_nil
  | cons property rest ih =>
      rw [Schema.rulesIn, broken_append, broken_under]
      rintro (⟨part, _, found, _⟩ | later)
      · cases (get?_of_entries_eq_nil bare _).symm.trans found
      · exact ih later

end Violations

namespace Schema

variable {α : Type} [Data α] {data : α} {properties : List (String × Schema)}

theorem violations_group_of_table {entries : List (α × α)}
    (table : Data.view data = .table entries) :
    (group properties).violations data = violationsIn data properties ++
      if otherKeys (properties.map Prod.fst) data = [] then []
      else [⟨[], .unexpected (otherKeys (properties.map Prod.fst) data)⟩] := by
  rw [violations, table, otherKeys, entries_of_table table]
  simp only [List.any_map, List.isEmpty_iff]
  rfl

theorem violations_group_of_bare (bare : ∀ entries, Data.view data ≠ .table entries) :
    (group properties).violations data = [⟨[], .notOfType data "object"⟩] := by
  rw [violations]
  split
  · rename_i entries table
    exact absurd table (bare entries)
  · rfl

mutual

/-- The violations of a schema are those of its rules that are broken. -/
theorem mem_violations_iff : ∀ (schema : Schema) (data : α) (violation : Violation α),
    violation ∈ schema.violations data ↔ Broken schema.rules data violation
  | .boolean, data, violation => by
      rw [rules, broken_here, violations]
      cases view : Data.view data <;> simp [Rule.Kept, Rule.breach, view]
  | .choice options, data, violation => by
      rw [rules, broken_append, broken_here, broken_here, violations]
      cases view : Data.view data with
      | word text =>
          by_cases known : ∃ name ∈ options, text = some name
          · simp [Rule.Kept, Rule.breach, view, known]
          · simp [Rule.Kept, Rule.breach, view, known]
      | _ => simp [Rule.Kept, Rule.breach, view]
  | .group properties, data, violation => by
      rw [rules, broken_append, broken_append, broken_here, broken_here, Rule.kept_only_iff]
      by_cases table : ∃ entries, Data.view data = .table entries
      · obtain ⟨entries, view⟩ := table
        have kept : Rule.table.Kept data := ⟨entries, view⟩
        rw [violations_group_of_table view, List.mem_append, mem_violationsIn_iff properties]
        by_cases none : otherKeys (properties.map Prod.fst) data = []
        · simp [none, kept]
        · simp [none, kept, Rule.breach]
      · -- What is no table breaks one rule only: all others speak of its entries.
        have bare := not_exists.mp table
        have nothing := entries_eq_nil bare
        have none : otherKeys (properties.map Prod.fst) data = [] := by
          rw [otherKeys, nothing]
          rfl
        rw [violations_group_of_bare bare, List.mem_singleton]
        simp [Rule.Kept, Rule.breach, table, none, not_broken_rulesIn nothing]

theorem mem_violationsIn_iff : ∀ (properties : List (String × Schema)) (data : α)
    (violation : Violation α),
    violation ∈ violationsIn data properties ↔ Broken (rulesIn properties) data violation
  | [], data, violation => by
      rw [violationsIn, rulesIn]
      exact iff_of_false List.not_mem_nil broken_nil
  | (key, schema) :: rest, data, violation => by
      rw [violationsIn, rulesIn, List.mem_append, broken_append, broken_under,
        mem_violationsIn_iff rest data violation]
      refine or_congr_left ?_
      cases found : Data.get? key data with
      | none => simp
      | some part => simp [mem_violations_iff schema part]

end

end Schema

/-! ## The violation that is reported -/

namespace Violation

variable {α : Type}

theorem length_le_of_outranks {violation other : Violation α}
    (outranks : violation.outranks other = true) :
    violation.path.length ≤ other.path.length := by
  simp only [Violation.outranks, Bool.or_eq_true, Bool.and_eq_true, decide_eq_true_eq] at outranks
  omega

theorem length_le_of_not_outranks {violation other : Violation α}
    (below : ¬ violation.outranks other = true) :
    other.path.length ≤ violation.path.length := by
  simp only [Violation.outranks, Bool.or_eq_true, decide_eq_true_eq] at below
  omega

/-- The violation that is kept is one of those that were met, and none that was met has a shorter
path. -/
theorem foldl_spec (rest : List (Violation α)) (first : Violation α) :
    let best := rest.foldl (fun best next => if next.outranks best then next else best) first
    best ∈ first :: rest ∧ ∀ other ∈ first :: rest, best.path.length ≤ other.path.length := by
  induction rest generalizing first with
  | nil => exact ⟨List.mem_cons_self, List.forall_mem_singleton.mpr (Nat.le_refl _)⟩
  | cons next rest ih =>
      rw [List.foldl_cons]
      by_cases higher : next.outranks first = true
      · rw [if_pos higher]
        obtain ⟨met, shortest⟩ := ih next
        refine ⟨List.mem_cons_of_mem _ met, List.forall_mem_cons.mpr ⟨?_, shortest⟩⟩
        exact Nat.le_trans (shortest next List.mem_cons_self) (length_le_of_outranks higher)
      · rw [if_neg higher]
        obtain ⟨met, shortest⟩ := ih first
        obtain ⟨own, later⟩ := List.forall_mem_cons.mp shortest
        refine ⟨?_, List.forall_mem_cons.mpr ⟨own, List.forall_mem_cons.mpr ⟨?_, later⟩⟩⟩
        · exact List.mem_cons.mpr ((List.mem_cons.mp met).imp_right (List.mem_cons_of_mem _))
        · exact Nat.le_trans own (length_le_of_not_outranks higher)

theorem reported?_spec {violations : List (Violation α)} {violation : Violation α}
    (reported : reported? violations = some violation) :
    violation ∈ violations ∧ ∀ other ∈ violations, violation.path.length ≤ other.path.length := by
  cases violations with
  | nil => cases reported
  | cons first rest =>
      cases reported
      exact foldl_spec rest first

theorem eq_nil_of_reported? {violations : List (Violation α)} (none : reported? violations = none) :
    violations = [] := by
  cases violations with
  | nil => rfl
  | cons first rest => cases none

end Violation

namespace Validator

variable {α : Type} [Data α]

/-- What is relied on: the list has the rules that are broken and no others, and of a list that is not
empty a violation is reported that no other undercuts. -/
structure Lawful (validator : Validator α) : Prop where
  listed {schema : Schema} {data : α} {violation : Violation α} :
    violation ∈ validator.violations schema data ↔ Broken schema.rules data violation
  silent {violations : List (Violation α)} :
    validator.reported? violations = none → violations = []
  shortest {violations : List (Violation α)} {violation : Violation α} :
    validator.reported? violations = some violation →
      violation ∈ violations ∧ ∀ other ∈ violations, violation.path.length ≤ other.path.length

theorem standard_lawful : (standard : Validator α).Lawful where
  listed := Schema.mem_violations_iff _ _ _
  silent := Violation.eq_nil_of_reported?
  shortest := Violation.reported?_spec

end Validator

end Reaching.Settings
