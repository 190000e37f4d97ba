import Reaching.Proofs.Report.Limits
import Reaching.Proofs.Solver.Alike

/-! # The order of names

The key of a name tells whether the name ends in a number, the number, and the name itself.  Keys are
compared part by part (`NameKey.NotAfter`), so they stand in one row (`NameKey.le_total`,
`NameKey.le_trans`), and no two names have one key: of two names one comes first, and both only if they
are the same (`Precedes.antisymm`).

So there is one way only to put names in order, and what is written of a state does not depend on the
order in which its data points or their points were stored.

Main fact: `order_settled_by_names`. -/
set_option autoImplicit false

namespace Reaching.Report

open Calls (bind_eq_ok forall_values_of_mapM toOption_bind toOption_mapM)
open Solver (State)
open Text (digitLimit isDecimalDigit)

/-! ## The order of keys -/

namespace NameKey

/-- Names without a number come first, then smaller numbers, then names by their characters. -/
def NotAfter (left right : NameKey) : Prop :=
  (left.numbered = false ∧ right.numbered = true) ∨ (left.numbered = right.numbered ∧
    (left.number < right.number ∨ left.number = right.number ∧ left.name ≤ right.name))

theorem le_iff {left right : NameKey} : left.le right = true ↔ left.NotAfter right := by
  rw [le, NotAfter]
  by_cases same : left.numbered = right.numbered
  · rw [if_pos same]
    by_cases equal : left.number = right.number
    · simp [same, equal]
    · simp [same, equal]
  · rw [if_neg same]
    cases found : left.numbered <;> cases also : right.numbered <;> simp_all

theorem le_total (left right : NameKey) : (left.le right || right.le left) = true := by
  rw [Bool.or_eq_true, le_iff, le_iff, NotAfter, NotAfter]
  have names := String.le_total left.name right.name
  have numbers := Nat.lt_trichotomy left.number right.number
  cases left.numbered <;> cases right.numbered <;> grind

theorem le_trans {one two three : NameKey} (first : one.le two = true) (second : two.le three = true) :
    one.le three = true := by
  simp only [le_iff, NotAfter] at *
  have names := @String.le_trans one.name two.name three.name
  grind

theorem le_antisymm {left right : NameKey} (first : left.le right = true)
    (second : right.le left = true) : left = right := by
  simp only [le_iff, NotAfter] at *
  have names := @String.le_antisymm left.name right.name
  obtain ⟨numbered, number, name⟩ := left
  obtain ⟨marked, count, text⟩ := right
  grind

end NameKey

def Precedes (left right : String) : Prop :=
  ∃ one other, NameKey.ofName? left = .ok one ∧ NameKey.ofName? right = .ok other ∧
    one.NotAfter other

theorem name_of_key {name : String} {key : NameKey} (read : NameKey.ofName? name = .ok key) :
    key.name = name := by
  obtain ⟨other, again, same⟩ := exists_key (short_of_key read)
  cases read.symm.trans again
  exact same.symm

theorem Precedes.antisymm {left right : String} (first : Precedes left right)
    (second : Precedes right left) : left = right := by
  obtain ⟨one, other, read, also, before⟩ := first
  obtain ⟨_, _, again, anew, after⟩ := second
  cases also.symm.trans again
  cases read.symm.trans anew
  rw [← name_of_key read, ← name_of_key also,
    NameKey.le_antisymm (NameKey.le_iff.mpr before) (NameKey.le_iff.mpr after)]

/-! ## Names in order -/

theorem pairwise_precedes {names sorted : List String} (called : sortedNames? names = .ok sorted) :
    sorted.Pairwise Precedes := by
  obtain ⟨keys, mapped, done⟩ := bind_eq_ok.mp called
  cases done
  have read : ∀ key ∈ keys, NameKey.ofName? key.name = .ok key :=
    forall_values_of_mapM (fun name key found => (name_of_key found).symm ▸ found) mapped
  have ascends :=
    @List.pairwise_mergeSort _ NameKey.le (fun _ _ _ => NameKey.le_trans) NameKey.le_total keys
  rw [List.pairwise_map]
  refine ascends.imp_of_mem fun {one other} first second before =>
    ⟨one, other, ?_, ?_, NameKey.le_iff.mp before⟩
  · exact read one (List.mem_mergeSort.mp first)
  · exact read other (List.mem_mergeSort.mp second)

theorem perm_of_sortedNames {names sorted : List String} (called : sortedNames? names = .ok sorted) :
    sorted.Perm names := by
  obtain ⟨_, again, permuted⟩ := exists_sortedNames (short_of_sortedNames called)
  cases called.symm.trans again
  exact permuted

theorem sortedNames?_of_perm {names others sorted : List String} (permuted : names.Perm others)
    (called : sortedNames? names = .ok sorted) : sortedNames? others = .ok sorted := by
  have short : ∀ name ∈ others, Short name := fun name member =>
    short_of_sortedNames called name (permuted.mem_iff.mpr member)
  obtain ⟨again, listed, same⟩ := exists_sortedNames short
  have equal : sorted = again := List.Perm.eq_of_pairwise (fun _ _ _ _ => Precedes.antisymm)
    (pairwise_precedes called) (pairwise_precedes listed)
    (((perm_of_sortedNames called).trans permuted).trans same.symm)
  rw [listed, equal]

/-- The same names are put in the same order, or refused, however they are given. -/
theorem toOption_sortedNames? {names others : List String} (permuted : names.Perm others) :
    (sortedNames? names).toOption = (sortedNames? others).toOption := by
  cases called : sortedNames? names with
  | ok sorted => rw [sortedNames?_of_perm permuted called]
  | error e =>
      cases listed : sortedNames? others with
      | error _ => rfl
      | ok sorted => cases called.symm.trans (sortedNames?_of_perm permuted.symm listed)

/-! ## States that differ in order only -/

theorem exists_solutionText_iff {state : State} :
    (∃ text, solutionText? state = .ok text) ↔ Listable state := by
  rw [← exists_rows_iff]
  constructor
  · rintro ⟨text, written⟩
    obtain ⟨rows, called, _⟩ := bind_eq_ok.mp written
    exact ⟨rows, called⟩
  · rintro ⟨rows, called⟩
    exact ⟨listing rows, bind_eq_ok.mpr ⟨rows, called, rfl⟩⟩

theorem perm_names_of_alike {one other : State} (alike : one.Alike other) :
    one.names.Perm other.names := by
  refine (List.perm_ext_iff_of_nodup one.nodup other.nodup).mpr fun name => ?_
  have found := alike name
  rw [State.get?, State.get?] at found
  rw [← State.lookup_isSome_iff, ← State.lookup_isSome_iff, found]

section Alike

variable {one other : State} (alike : one.Alike other)

include alike

theorem toOption_rows? : (rows? one).toOption = (rows? other).toOption := by
  have row : row? one = row? other := by
    funext name
    rw [row?, row?, alike name]
  rw [rows?, rows?, row, toOption_bind, toOption_bind,
    toOption_sortedNames? (perm_names_of_alike alike)]

theorem toOption_solutionText? : (solutionText? one).toOption = (solutionText? other).toOption := by
  rw [solutionText?, solutionText?, toOption_bind, toOption_bind, toOption_rows? alike]

theorem toOption_stateValue? : (stateValue? one).toOption = (stateValue? other).toOption := by
  rw [stateValue?, stateValue?, toOption_bind, toOption_bind, toOption_rows? alike]

theorem toOption_recordText? (iterations passes : Int) {snapshots kept : List State}
    (same : List.Forall₂ State.Alike snapshots kept) :
    (recordText? iterations passes one snapshots).toOption =
      (recordText? iterations passes other kept).toOption := by
  have states := toOption_mapM (same.imp fun _ _ => toOption_stateValue?)
  have first := toOption_stateValue? alike
  rw [recordText?, recordText?, toOption_bind, toOption_bind, record?, record?, toOption_bind,
    toOption_bind, first]
  simp only [toOption_bind, states]

end Alike

/-! ## Names of one letter -/

theorem ofName?_letter {letter : Char} (plain : isDecimalDigit letter = false) {digits : List Char}
    (number : ∀ c ∈ digits, c.isDigit = true) (few : digits.length ≤ digitLimit) :
    NameKey.ofName? (String.ofList (letter :: digits)) =
      .ok ⟨!digits.isEmpty, Nat.ofDigitChars 10 digits 0, String.ofList (letter :: digits)⟩ := by
  rw [NameKey.ofName?, suffix_letter plain number]
  cases digits with
  | nil => rfl
  | cons first rest =>
      dsimp only
      rw [Text.decimal?, if_pos few, ofDecimalDigits_eq number]
      rfl

/-- The bare letter comes first, then the numbers by their values, and equal values by characters. -/
theorem precedes_letter_iff {letter : Char} (plain : isDecimalDigit letter = false)
    {left right : List Char} (number : ∀ c ∈ left, c.isDigit = true)
    (count : ∀ c ∈ right, c.isDigit = true) (few : left.length ≤ digitLimit)
    (bounded : right.length ≤ digitLimit) :
    Precedes (String.ofList (letter :: left)) (String.ofList (letter :: right)) ↔
      left = [] ∨ right ≠ [] ∧
        (Nat.ofDigitChars 10 left 0 < Nat.ofDigitChars 10 right 0 ∨
          Nat.ofDigitChars 10 left 0 = Nat.ofDigitChars 10 right 0 ∧
            String.ofList (letter :: left) ≤ String.ofList (letter :: right)) := by
  have keys : Precedes (String.ofList (letter :: left)) (String.ofList (letter :: right)) ↔
      NameKey.NotAfter ⟨!left.isEmpty, Nat.ofDigitChars 10 left 0, String.ofList (letter :: left)⟩
        ⟨!right.isEmpty, Nat.ofDigitChars 10 right 0, String.ofList (letter :: right)⟩ := by
    rw [Precedes, ofName?_letter plain number few, ofName?_letter plain count bounded]
    simp
  rw [keys, NameKey.NotAfter]
  cases left with
  | nil =>
      cases right with
      | nil => simp
      | cons first rest => simp
  | cons first rest =>
      cases right with
      | nil => simp
      | cons other more => simp

/-! ## Main result -/

theorem order_settled_by_names :
    (∀ names : List String, (∀ name ∈ names, Short name) → ∃ sorted,
      sortedNames? names = .ok sorted ∧ sorted.Perm names ∧ sorted.Pairwise Precedes ∧
        ∀ others : List String, others.Perm names → sortedNames? others = .ok sorted) ∧
    (∀ names : List String, (∃ name ∈ names, ¬ Short name) →
      ∀ others : List String, others.Perm names → ∃ e, sortedNames? others = .error e) ∧
    (∀ one other : State, one.Alike other →
      (solutionText? one).toOption = (solutionText? other).toOption ∧
      (rows? one).toOption = (rows? other).toOption ∧
      ∀ (iterations passes : Int) (snapshots kept : List State),
        List.Forall₂ State.Alike snapshots kept →
          (recordText? iterations passes one snapshots).toOption =
            (recordText? iterations passes other kept).toOption) ∧
    (∀ state : State, (∃ text, solutionText? state = .ok text) ↔ Listable state) ∧
    (∀ letter : Char, isDecimalDigit letter = false → ∀ left right : List Char,
      (∀ c ∈ left ++ right, c.isDigit = true) → left.length ≤ digitLimit →
        right.length ≤ digitLimit →
          (Precedes (String.ofList (letter :: left)) (String.ofList (letter :: right)) ↔
            left = [] ∨ right ≠ [] ∧
              (Nat.ofDigitChars 10 left 0 < Nat.ofDigitChars 10 right 0 ∨
                Nat.ofDigitChars 10 left 0 = Nat.ofDigitChars 10 right 0 ∧
                  String.ofList (letter :: left) ≤ String.ofList (letter :: right)))) ∧
    ∀ (name : String) (digits : List Char), digits ≠ [] →
      (NameKey.suffix name = digits ↔ EndsIn name digits) := by
  refine ⟨?sorted, ?refused, ?alike, fun _ => exists_solutionText_iff, ?letters,
    fun _ _ some => suffix_eq_iff some⟩
  case sorted =>
    intro names short
    obtain ⟨sorted, called, permuted⟩ := exists_sortedNames short
    exact ⟨sorted, called, permuted, pairwise_precedes called, fun _ same =>
      sortedNames?_of_perm same.symm called⟩
  case refused =>
    rintro names ⟨name, member, long⟩ others permuted
    cases listed : sortedNames? others with
    | error e => exact ⟨e, rfl⟩
    | ok sorted => exact absurd (short_of_sortedNames listed name (permuted.mem_iff.mpr member)) long
  case alike =>
    intro one other alike
    exact ⟨toOption_solutionText? alike, toOption_rows? alike,
      fun iterations passes _ _ same => toOption_recordText? alike iterations passes same⟩
  case letters =>
    intro letter plain left right number few bounded
    obtain ⟨first, second⟩ := List.forall_mem_append.mp number
    exact precedes_letter_iff plain first second few bounded

def storedLast : State := .ofList [("L10", .ofList ["d2", "d10"]), ("L", ∅)]

def storedFirst : State := .ofList [("L", ∅), ("L10", .ofList ["d10", "d2", "d10"])]

theorem order_settled_by_names_mixed :
    (∃ sorted, sortedNames? ["L10", "L2", "d٣\n", "L", "L02"] = .ok sorted ∧
      sorted.Pairwise Precedes ∧ sortedNames? ["L", "L02", "L10", "L2", "d٣\n"] = .ok sorted) ∧
    (∃ e, sortedNames? ["L", String.ofList ('L' :: List.replicate 4301 '0')] = .error e) ∧
    (solutionText? storedLast).toOption = (solutionText? storedFirst).toOption ∧
    Precedes "L02" "L2" ∧ NameKey.suffix "d٣\n" = ['٣'] := by
  obtain ⟨sorted, refused, alike, _, letters, suffixes⟩ := order_settled_by_names
  refine ⟨?_, ?_, ?_, ?_, ?_⟩
  · obtain ⟨listed, called, _, ascends, others⟩ := sorted ["L10", "L2", "d٣\n", "L", "L02"]
      (by decide +kernel)
    exact ⟨listed, called, ascends, others _ (by decide +kernel)⟩
  · have long : ¬ Short (String.ofList ('L' :: List.replicate 4301 '0')) := by
      rw [Short, suffix_letter (by decide) fun c member => List.eq_of_mem_replicate member ▸ rfl,
        List.length_replicate]
      decide
    exact refused _ ⟨_, List.mem_cons_of_mem _ List.mem_cons_self, long⟩ _ (.refl _)
  · refine (alike storedLast storedFirst fun name => ?_).1
    have last : storedLast.entries = [("L10", .ofList ["d10", "d2"]), ("L", ∅)] := by decide +kernel
    have first : storedFirst.entries = [("L", ∅), ("L10", .ofList ["d10", "d2"])] := by
      decide +kernel
    rw [State.get?, State.get?, last, first]
    by_cases bare : name = "L"
    · subst bare
      rfl
    · have other : (name == "L") = false := beq_false_of_ne bare
      simp [List.lookup, other]
  · exact (letters 'L' (by decide) ['0', '2'] ['2'] (by simp) (by decide) (by decide)).mpr
      (.inr ⟨by decide, .inr ⟨rfl, by decide⟩⟩)
  · exact (suffixes "d٣\n" ['٣'] (by decide)).mpr ⟨['d'], ['\n'], by simp, .inr rfl,
      List.forall_mem_singleton.mpr (by decide), fun c last => Option.some.inj last ▸ by decide⟩

end Reaching.Report
