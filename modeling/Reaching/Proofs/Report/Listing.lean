import Reaching.Proofs.Calls
import Reaching.Proofs.Report.Suffix
import Reaching.Proofs.Solver.Contents
import Reaching.Report.Listing

/-! # States that can be listed

A name has its place in the order unless the digits at its end are too many for a number (`Short`).
Short names can be put in order, and none is lost or added (`exists_sortedNames`).

A state with short names can be listed: there is one row for each data point, with just the points
that it has (`exists_rows`).  Names that are a letter and not too many ASCII digits after it
(`Numbered`) end in these digits and no others, so they are short. -/
set_option autoImplicit false

namespace Reaching.Report

open Calls (exists_mapM)
open Solver (State)
open Text (digitLimit isDecimalDigit)

/-! ## Names in order -/

/-- The digits at the end of a name are not too many for a number. -/
def Short (name : String) : Prop := (NameKey.suffix name).length ≤ digitLimit

instance (name : String) : Decidable (Short name) := inferInstanceAs (Decidable (_ ≤ _))

theorem exists_key {name : String} (short : Short name) :
    ∃ key, NameKey.ofName? name = .ok key ∧ name = key.name := by
  have few : (NameKey.suffix name).length ≤ digitLimit := short
  rw [NameKey.ofName?]
  split
  · exact ⟨_, rfl, rfl⟩
  · rw [Text.decimal?, if_pos few]
    exact ⟨_, rfl, rfl⟩

theorem exists_sortedNames {names : List String} (short : ∀ name ∈ names, Short name) :
    ∃ sorted, sortedNames? names = .ok sorted ∧ sorted.Perm names := by
  obtain ⟨keys, called, named⟩ := exists_mapM fun name member => exists_key (short name member)
  refine ⟨(keys.mergeSort NameKey.le).map NameKey.name, ?_, ?_⟩
  · rw [sortedNames?, called]
    rfl
  · have same : names = keys.map NameKey.name :=
      List.forall₂_eq_eq_eq ▸ List.forall₂_map_right_iff.mpr named
    rw [same]
    exact (List.mergeSort_perm keys NameKey.le).map NameKey.name

/-! ## Rows -/

def Row.Shows (state : State) (row : Row) : Prop :=
  row.points.Perm (state.points row.name).names

structure Shown (state : State) (rows : List Row) : Prop where
  names : (rows.map Row.name).Perm state.names
  points : ∀ row ∈ rows, row.Shows state

theorem exists_row {state : State} {name : String}
    (short : ∀ d ∈ state.points name, Short d) :
    ∃ row, row? state name = .ok row ∧ row.Shows state ∧ name = row.name := by
  obtain ⟨points, called, permuted⟩ := exists_sortedNames short
  refine ⟨⟨name, points⟩, ?_, permuted, rfl⟩
  change (sortedNames? (state.points name).names >>= fun points => _) = _
  rw [called]
  rfl

theorem exists_rows {state : State} (names : ∀ name ∈ state.names, Short name)
    (points : ∀ name ∈ state.names, ∀ d ∈ state.points name, Short d) :
    ∃ rows, rows? state = .ok rows ∧ Shown state rows := by
  obtain ⟨sorted, called, permuted⟩ := exists_sortedNames names
  obtain ⟨rows, listed, related⟩ := exists_mapM fun name (member : name ∈ sorted) =>
    exists_row (points name (permuted.mem_iff.mp member))
  obtain ⟨shows, named⟩ := (List.forall₂_and_left _ _).mp related.flip
  have same : sorted = rows.map Row.name :=
    List.forall₂_eq_eq_eq ▸ List.forall₂_map_right_iff.mpr named.flip
  refine ⟨rows, ?_, ?_, shows⟩
  · rw [rows?, called]
    exact listed
  · rw [← same]
    exact permuted

/-! ## Numbered names -/

def Numbered (letter : Char) (name : String) : Prop :=
  ∃ digits : List Char, name.toList = letter :: digits ∧ digits.all Char.isDigit = true ∧
    digits.length ≤ digitLimit

theorem numbered_iff {letter : Char} {name : String} :
    Numbered letter name ↔ name.toList.head? = some letter ∧
      name.toList.tail.all Char.isDigit = true ∧ name.toList.tail.length ≤ digitLimit := by
  constructor
  · rintro ⟨digits, whole, number, few⟩
    rw [whole]
    exact ⟨rfl, number, few⟩
  · rintro ⟨first, number, few⟩
    exact ⟨name.toList.tail, (List.cons_head?_tail first).symm, number, few⟩

instance (letter : Char) (name : String) : Decidable (Numbered letter name) :=
  decidable_of_iff' _ numbered_iff

theorem Numbered.short {letter : Char} {name : String} (numbered : Numbered letter name)
    (plain : isDecimalDigit letter = false) : Short name := by
  obtain ⟨digits, whole, number, few⟩ := numbered
  rw [Short, ← String.ofList_toList (s := name), whole,
    suffix_letter plain (List.all_eq_true.mp number)]
  exact few

structure WellNamed (state : State) : Prop where
  names : ∀ name ∈ state.names, Numbered 'L' name
  points : ∀ name ∈ state.names, ∀ d ∈ state.points name, Numbered 'd' d

instance (state : State) : Decidable (WellNamed state) :=
  decidable_of_iff ((∀ name ∈ state.names, Numbered 'L' name) ∧
      ∀ name ∈ state.names, ∀ d ∈ (state.points name).names, Numbered 'd' d)
    ⟨fun named => ⟨named.1, named.2⟩, fun named => ⟨named.names, named.points⟩⟩

theorem WellNamed.exists_rows {state : State} (named : WellNamed state) :
    ∃ rows, rows? state = .ok rows ∧ Shown state rows :=
  Report.exists_rows
    (fun name member => (named.names name member).short (by decide))
    fun name present d member =>
      (named.points name present d member).short (by decide)

end Reaching.Report
