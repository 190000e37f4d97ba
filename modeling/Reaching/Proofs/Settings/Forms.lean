import Mathlib.Data.List.Nodup
import Reaching.Proofs.Settings.Given
import Reaching.Settings.JsonData
import Reaching.Settings.YamlData

/-! # Settings from JSON and YAML

In both forms of data a table is blank just if it has no entries.  JSON keeps each name once, and
its members can be put in another order (`reordered_object`).  Messages quote all of JSON but numbers
of too many digits (`exists_shown`), so without such a number every refusal reports a broken rule.

Main fact: `settings_given_or_refused`. -/
set_option autoImplicit false

namespace Reaching.Settings

open Calls (bind_eq_ok exists_bind_ok exists_mapM exists_mapM_ok)
open Json (Value)
open Text (Unwritable digitLimit)

namespace JsonData

/-! ## Members -/

section Members

variable {α : Type} {name : String} {member : α} {members stored : List (String × α)}

theorem mem_store {entry : String × α} (present : entry ∈ store name member stored) :
    entry = (name, member) ∨ entry ∈ stored := by
  induction stored with
  | nil => exact .inl (List.mem_singleton.mp present)
  | cons head rest ih =>
      rw [store] at present
      split at present
      · rename_i same
        exact (List.mem_cons.mp present).imp (same ▸ ·) (List.mem_cons_of_mem _)
      · rcases List.mem_cons.mp present with same | later
        · exact .inr (same ▸ List.mem_cons_self)
        · exact (ih later).imp_right (List.mem_cons_of_mem _)

theorem store_of_notMem (absent : name ∉ stored.map Prod.fst) :
    store name member stored = stored ++ [(name, member)] := by
  induction stored with
  | nil => rfl
  | cons head rest ih =>
      obtain ⟨other, later⟩ := not_or.mp (mt List.mem_cons.mpr absent)
      rw [store, if_neg (Ne.symm other), ih later, List.cons_append]

theorem store_ne_nil : store name member stored ≠ [] := by
  cases stored with
  | nil => exact List.cons_ne_nil _ _
  | cons head rest =>
      rw [store]
      split <;> exact List.cons_ne_nil _ _

def storeAll (stored members : List (String × α)) : List (String × α) :=
  members.foldl (fun stored member => store member.1 member.2 stored) stored

theorem mem_storeAll {entry : String × α} (present : entry ∈ storeAll stored members) :
    entry ∈ stored ∨ entry ∈ members := by
  induction members generalizing stored with
  | nil => exact .inl present
  | cons head rest ih =>
      rcases ih present with early | later
      · rcases mem_store early with same | old
        · exact .inr (same ▸ List.mem_cons_self)
        · exact .inl old
      · exact .inr (List.mem_cons_of_mem _ later)

theorem storeAll_of_nodup (nodup : ((stored ++ members).map Prod.fst).Nodup) :
    storeAll stored members = stored ++ members := by
  induction members generalizing stored with
  | nil => exact (List.append_nil stored).symm
  | cons head rest ih =>
      have absent : head.1 ∉ stored.map Prod.fst := by
        rw [List.map_append, List.nodup_append] at nodup
        exact fun present => nodup.2.2 _ present _ List.mem_cons_self rfl
      rw [List.append_cons] at nodup ⊢
      rw [← ih nodup, ← store_of_notMem absent]
      rfl

theorem storeAll_ne_nil (some : stored ≠ []) : storeAll stored members ≠ [] := by
  induction members generalizing stored with
  | nil => exact some
  | cons head rest ih => exact ih store_ne_nil

theorem mem_distinct {entry : String × α} (present : entry ∈ distinct members) : entry ∈ members :=
  (mem_storeAll present).resolve_left List.not_mem_nil

theorem distinct_of_nodup (nodup : (members.map Prod.fst).Nodup) : distinct members = members := by
  have all : storeAll [] members = [] ++ members := storeAll_of_nodup nodup
  exact all

theorem distinct_eq_nil_iff : distinct members = [] ↔ members = [] := by
  constructor
  · intro none
    cases members with
    | nil => rfl
    | cons head rest =>
        have first : storeAll (store head.1 head.2 []) rest ≠ [] := storeAll_ne_nil store_ne_nil
        exact absurd none first
  · rintro rfl
    rfl

end Members

theorem exists_of_forall₂ {β γ : Type} {r : β → γ → Prop} {items : List β} {others : List γ}
    (related : List.Forall₂ r items others) {other : γ} (listed : other ∈ others) :
    ∃ item ∈ items, r item other := by
  induction related with
  | nil => cases listed
  | cons first _ ih =>
      rcases List.mem_cons.mp listed with rfl | later
      · exact ⟨_, List.mem_cons_self, first⟩
      · obtain ⟨item, present, found⟩ := ih later
        exact ⟨item, List.mem_cons_of_mem _ present, found⟩

/-! ## Values -/

theorem isBlank_iff {value : Value} : Data.isBlank value = true ↔
    value ∈ [.null, .object [], .array [], .string "", .int 0, .bool false] := by
  change isBlank value = true ↔ _
  cases value <;> simp [isBlank]

theorem exists_object {value : Value} {entries : List (Value × Value)}
    (table : Data.view value = .table entries) : ∃ members, value = .object members ∧
      entries = (distinct members).map fun member => (.string member.1, member.2) := by
  cases value with
  | object members =>
      cases table
      exact ⟨members, rfl, rfl⟩
  | _ => cases table

instance : LawfulData Value where
  isBlank_table table := by
    obtain ⟨members, rfl, rfl⟩ := exists_object table
    rw [List.map_eq_nil_iff, distinct_eq_nil_iff, ← List.isEmpty_iff]
    rfl

theorem entries_object (members : List (String × Value)) :
    Data.entries (Value.object members) =
      (distinct members).map fun member => (.string member.1, member.2) := rfl

theorem exists_member_of_entry {value : Value} {entry : Value × Value}
    (present : entry ∈ Data.entries value) :
    ∃ members name member, value = .object members ∧ (name, member) ∈ members ∧
      entry = (.string name, member) := by
  by_cases table : ∃ entries, Data.view value = .table entries
  · obtain ⟨entries, view⟩ := table
    obtain ⟨members, rfl, rfl⟩ := exists_object view
    rw [entries_object] at present
    obtain ⟨⟨name, member⟩, kept, rfl⟩ := List.mem_map.mp present
    exact ⟨members, name, member, rfl, mem_distinct kept, rfl⟩
  · rw [entries_eq_nil (not_exists.mp table)] at present
    cases present

theorem exists_member_of_get? {name : String} {value part : Value}
    (found : Data.get? name value = some part) :
    ∃ members, value = .object members ∧ (name, part) ∈ members := by
  obtain ⟨entry, first, rfl⟩ := Option.map_eq_some_iff.mp found
  obtain ⟨members, key, member, rfl, listed, rfl⟩ :=
    exists_member_of_entry (List.mem_of_find?_eq_some first)
  have word := List.find?_some first
  obtain rfl : key = name := of_decide_eq_true word
  exact ⟨members, rfl, listed⟩

/-- Members may be put in another order, and so may be what is in them. -/
theorem reordered_object {members moved others : List (String × Value)}
    (nodup : (members.map Prod.fst).Nodup) (permuted : members.Perm moved)
    (inside : List.Forall₂ (fun one other => one.1 = other.1 ∧ Reordered one.2 other.2) moved
      others) : Reordered (Value.object members) (Value.object others) := by
  have distinctNames : (moved.map Prod.fst).Nodup := (permuted.map _).nodup_iff.mp nodup
  have names : moved.map Prod.fst = others.map Prod.fst := by
    rw [← List.forall₂_eq_eq_eq, List.forall₂_map_left_iff, List.forall₂_map_right_iff]
    exact inside.imp fun _ _ => And.left
  have keys : ∀ list : List (String × Value),
      (list.map fun member => (Value.string member.1, member.2)).map Prod.fst =
        (list.map Prod.fst).map Value.string := fun list => by
    rw [List.map_map, List.map_map]
    rfl
  refine .table rfl rfl ?_ fun name one other found also => ?_
  · rw [distinct_of_nodup nodup, distinct_of_nodup (names ▸ distinctNames), keys, keys, ← names]
    exact (permuted.map _).map _
  · obtain ⟨_, same, listed⟩ := exists_member_of_get? found
    obtain ⟨_, equal, present⟩ := exists_member_of_get? also
    cases same
    cases equal
    -- No name stands twice, so the two parts of one name are those that were paired.
    obtain ⟨⟨key, value⟩, here, rfl, reordered⟩ := exists_of_forall₂ inside present
    have one : (key, value) = (key, one) :=
      List.inj_on_of_nodup_map distinctNames here (permuted.mem_iff.mp listed) rfl
    cases one
    exact reordered

/-! ## Numbers in a value -/

inductive Holds (n : Int) : Value → Prop
  | here : Holds n (.int n)
  | item {items : List Value} {item : Value} (listed : item ∈ items) (inside : Holds n item) :
      Holds n (.array items)
  | member {members : List (String × Value)} {name : String} {member : Value}
      (listed : (name, member) ∈ members) (inside : Holds n member) : Holds n (.object members)

def Quotable (value : Value) : Prop := ∀ n, Holds n value → n.natAbs < Nat.pow 10 digitLimit

theorem Quotable.of_reach? {value part : Value} {path : List String} (quotable : Quotable value)
    (reached : reach? path value = some part) : Quotable part := by
  induction path generalizing value with
  | nil =>
      cases reached
      exact quotable
  | cons key path ih =>
      obtain ⟨inner, found, further⟩ := reach?_cons.mp reached
      obtain ⟨members, rfl, listed⟩ := exists_member_of_get? found
      exact ih (fun n inside => quotable n (.member listed inside)) further

theorem shownItems_eq (items : List Value) : shownItems items = items.map shown := by
  induction items with
  | nil => rfl
  | cons item rest ih => rw [shownItems, ih, List.map_cons]

theorem shownMembers_eq (members : List (String × Value)) :
    shownMembers members = members.map fun member => (member.1, shown member.2) := by
  induction members with
  | nil => rfl
  | cons member rest ih => rw [shownMembers, ih, List.map_cons]

theorem exists_writeInteger? {n : Int} (few : n.natAbs < Nat.pow 10 digitLimit) :
    ∃ text, Text.writeInteger? n = .ok text :=
  ⟨toString n, by rw [Text.writeInteger?, if_pos few]⟩

theorem exists_shown_array {items : List Value}
    (each : ∀ item ∈ items, ∃ text, shown item = .ok text) :
    ∃ text, shown (.array items) = .ok text := by
  rw [shown, shownItems_eq]
  refine exists_bind_ok (exists_mapM_ok ?_) fun _ => ⟨_, rfl⟩
  exact List.forall_mem_map.mpr each

theorem exists_shown_object {members : List (String × Value)}
    (each : ∀ member ∈ members, ∃ text, shown member.2 = .ok text) :
    ∃ text, shown (.object members) = .ok text := by
  rw [shown, shownMembers_eq]
  refine exists_bind_ok (exists_mapM_ok fun form kept => ?_) fun _ => ⟨_, rfl⟩
  obtain ⟨member, listed, rfl⟩ := List.mem_map.mp (mem_distinct kept)
  exact exists_bind_ok (each member listed) fun _ => ⟨_, rfl⟩

theorem exists_shown : ∀ value : Value, Quotable value → ∃ text, shown value = .ok text
  | .null, _ => ⟨_, rfl⟩
  | .bool true, _ => ⟨_, rfl⟩
  | .bool false, _ => ⟨_, rfl⟩
  | .int n, quotable => by
      rw [shown]
      exact exists_writeInteger? (quotable n .here)
  | .string _, _ => ⟨_, rfl⟩
  | .array items, quotable => exists_shown_array fun item listed =>
      exists_shown item fun n inside => quotable n (.item listed inside)
  | .object members, quotable => exists_shown_object fun member listed =>
      exists_shown member.2 fun n inside => quotable n (.member listed inside)
termination_by value => sizeOf value
decreasing_by
  · have smaller := List.sizeOf_lt_of_mem listed
    rw [Value.array.sizeOf_spec]
    omega
  · obtain ⟨name, part⟩ := member
    have smaller := List.sizeOf_lt_of_mem listed
    rw [Prod.mk.sizeOf_spec] at smaller
    rw [Value.object.sizeOf_spec]
    change sizeOf part < _
    omega

/-! ## Messages -/

theorem exists_sortedKeys {keys : List Value} (texts : ∀ key ∈ keys, ∃ text, key = .string text) :
    ∃ sorted, Breach.sortedKeys keys = .ok sorted ∧ sorted.Perm keys := by
  have each : ∀ key ∈ keys, ∃ form : Text.Codes × Value,
      (do return (← Data.plain key, key) : Except Unwritable _) = .ok form ∧ key = form.2 := by
    intro key listed
    obtain ⟨text, rfl⟩ := texts key listed
    exact ⟨_, rfl, rfl⟩
  obtain ⟨forms, called, paired⟩ := exists_mapM each
  have same : keys = forms.map Prod.snd :=
    List.forall₂_eq_eq_eq ▸ List.forall₂_map_right_iff.mpr paired
  refine ⟨_, by rw [Breach.sortedKeys, called]; rfl, ?_⟩
  rw [same]
  exact (List.mergeSort_perm forms _).map Prod.snd

theorem exists_string_of_mem_otherKeys {names : List String} {value key : Value}
    (other : key ∈ otherKeys names value) : ∃ text, key = .string text := by
  obtain ⟨entry, present, rfl⟩ := List.mem_map.mp (List.mem_of_mem_filter other)
  obtain ⟨_, name, _, _, _, rfl⟩ := exists_member_of_entry present
  exact ⟨name, rfl⟩

/-- What is said of a broken rule can be written if the part that breaks it can be quoted. -/
theorem exists_message (rule : Rule) {part : Value} (quotable : Quotable part) :
    ∃ message, (rule.breach part).message = .ok message := by
  have quoted := exists_shown part quotable
  cases rule with
  | only names =>
      have strings : ∀ key ∈ otherKeys names part, ∃ text, key = .string text := fun _ =>
        exists_string_of_mem_otherKeys
      obtain ⟨sorted, called, permuted⟩ := exists_sortedKeys strings
      have each : ∀ key ∈ sorted, ∃ text, shown key = .ok text := fun key listed => by
        obtain ⟨text, rfl⟩ := strings key (permuted.mem_iff.mp listed)
        exact ⟨_, rfl⟩
      obtain ⟨texts, written⟩ := exists_mapM_ok each
      exact ⟨_, bind_eq_ok.mpr ⟨sorted, called, bind_eq_ok.mpr ⟨texts, written, rfl⟩⟩⟩
  | _ => exact exists_bind_ok quoted fun _ => ⟨_, rfl⟩

theorem exists_long_of_unwritable {validator : Validator Value} (lawful : validator.Lawful)
    {value : Value} {error : Unwritable}
    (refused : ofData? validator value = .error (.unwritable error)) :
    ∃ n, Holds n value ∧ Nat.pow 10 digitLimit ≤ n.natAbs := by
  obtain ⟨violation, ⟨rule, part, _, reached, _, breach⟩, failed⟩ :=
    (judged lawful value).unreported error refused
  by_contra none
  have quotable : Quotable value := fun n inside =>
    Nat.lt_of_not_le fun long => none ⟨n, inside, long⟩
  obtain ⟨message, written⟩ := exists_message rule (quotable.of_reach? reached)
  rw [breach, written] at failed
  cases failed

end JsonData

instance : LawfulData Yaml.Value where
  isBlank_table {data entries} table := by
    obtain ⟨collections, item⟩ := data
    change YamlData.view ⟨collections, item⟩ = _ at table
    change Yaml.Value.isBlank ⟨collections, item⟩ = true ↔ _
    cases item with
    | collection number =>
        cases stored : Yaml.Value.collectionAt collections number with
        | table pairs =>
            simp only [YamlData.view, YamlData.viewCollection, stored] at table
            cases table
            simp [Yaml.Value.isBlank, Yaml.Collection.isEmpty, stored]
        | _ => simp [YamlData.view, YamlData.viewCollection, stored] at table
    | _ => cases table

/-! ## Main result -/

/-- What becomes of JSON, blank values and values of too many digits included.  The last part does not
look into the form of the data, and so holds as well of JSON whose numbers have fractions. -/
theorem settings_given_or_refused :
    (∀ {α : Type} [Data α], (Validator.standard : Validator α).Lawful) ∧
    (∀ value : Value, Data.isBlank value = true ↔
      value ∈ [.null, .object [], .array [], .string "", .int 0, .bool false]) ∧
    (∀ validator : Validator Value, validator.Lawful → ∀ (value : Value) (error : Unwritable),
      ofData? validator value = .error (.unwritable error) →
        ∃ n, JsonData.Holds n value ∧ Nat.pow 10 digitLimit ≤ n.natAbs) ∧
    ∀ {α : Type} [Data α] [LawfulData α] (validator : Validator α), validator.Lawful →
      ∀ data : α, Judged validator data :=
  ⟨Validator.standard_lawful, fun _ => JsonData.isBlank_iff,
    fun _ lawful _ _ => JsonData.exists_long_of_unwritable lawful, fun _ lawful => judged lawful⟩

def chosen : Value := .object [
  ("solver", .object [("scheme", .string "jacobi"), ("trace", .bool true)]), ("lexer", .object [])]

def chosenLater : Value := .object [
  ("lexer", .object []), ("solver", .object [("trace", .bool true), ("scheme", .string "jacobi")])]

/-- Two rules are broken on paths of one key, and one on a longer path. -/
def misplaced : Value := .object [
  ("lexer", .array []), ("solver", .object [("scheme", .string "gauss")]), ("output", .null)]

theorem reordered_chosen : Reordered chosen chosenLater := by
  have solver : Reordered
      (Value.object [("scheme", .string "jacobi"), ("trace", .bool true)])
      (Value.object [("trace", .bool true), ("scheme", .string "jacobi")]) :=
    JsonData.reordered_object (by decide) (.swap _ _ _)
      (.cons ⟨rfl, .same _⟩ (.cons ⟨rfl, .same _⟩ .nil))
  exact JsonData.reordered_object (by decide) (.swap _ _ _)
    (.cons ⟨rfl, .same _⟩ (.cons ⟨rfl, solver⟩ .nil))

theorem settings_given_or_refused_misplaced :
    (Validator.standard : Validator Value).Lawful ∧
    ofData? .standard chosenLater = .ok { scheme := .jacobi, trace := true } ∧
    (∃ breach message,
      ofData? .standard misplaced = .error (.violated ⟨["output"], breach⟩ message) ∧
      Broken rules misplaced ⟨["output"], breach⟩ ∧
      ∀ other, Broken rules misplaced other → 1 ≤ other.path.length) ∧
    ∀ settings,
      ofData? .standard (Value.object [("lexer", .object [("strict", .int 0)])]) ≠ .ok settings := by
  obtain ⟨lawful, _, _, judged⟩ := settings_given_or_refused
  have judged := judged (α := Value) .standard lawful
  refine ⟨lawful, ?_, ⟨.notOfType .null "object", "None is not of type 'object'", rfl, ?_⟩, ?_⟩
  · exact (judged chosen).reordered _ chosenLater rfl reordered_chosen
  · obtain ⟨broken, _, shortest⟩ := (judged misplaced).reported _ _ rfl
    exact ⟨broken, shortest⟩
  · intro settings read
    rcases (judged _).accepted.mp ⟨settings, read⟩ with blank | fits
    · cases blank
    · obtain ⟨_, view⟩ := fits ["lexer", "strict"] .flag (.int 0) (by decide) rfl
      cases view

end Reaching.Settings
