import Mathlib.Data.List.Basic
import Reaching.Proofs.Lexing.Cut
import Reaching.Report.NameOrder

/-! # The number at the end of a name

The number of a name is written by the longest run of decimal digits of any script at its end, or
before a newline that ends it (`suffix_eq_iff`).  A letter with ASCII digits after it ends in just these
digits (`suffix_letter`), and they have their usual value (`ofDecimalDigits_eq`). -/
set_option autoImplicit false

namespace Reaching.Report

open Source (Stops passes_takeWhile stops_dropWhile takeWhile_of_stops)
open Text (isDecimalDigit decimalDigit? ofDecimalDigits)

/-- The name ends in these digits, which a newline may follow, and no digit stands before them. -/
def EndsIn (name : String) (digits : List Char) : Prop :=
  ∃ before after : List Char, name.toList = before ++ (digits ++ after) ∧
    (after = [] ∨ after = ['\n']) ∧ (∀ c ∈ digits, isDecimalDigit c = true) ∧
      ∀ c ∈ before.getLast?, isDecimalDigit c = false

/-- The digits of the suffix are looked for from the end, behind at most one newline. -/
theorem exists_suffix (name : String) : ∃ reversed after : List Char,
    name.toList = reversed.reverse ++ after ∧ (after = [] ∨ after = ['\n']) ∧
      NameKey.suffix name = (reversed.takeWhile isDecimalDigit).reverse := by
  rw [NameKey.suffix]
  split
  · rename_i rest ends
    refine ⟨rest, ['\n'], ?_, .inr rfl, rfl⟩
    rw [← List.reverse_cons, ← ends, List.reverse_reverse]
  · exact ⟨name.toList.reverse, [], by simp, .inl rfl, rfl⟩

theorem endsIn_suffix (name : String) : EndsIn name (NameKey.suffix name) := by
  obtain ⟨reversed, after, whole, line, same⟩ := exists_suffix name
  refine ⟨(reversed.dropWhile isDecimalDigit).reverse, after, ?_, line, ?_, ?_⟩
  · rw [same, ← List.append_assoc, ← List.reverse_append, List.takeWhile_append_dropWhile, whole]
  · intro c member
    rw [same, List.mem_reverse] at member
    exact passes_takeWhile member
  · rw [List.getLast?_reverse]
    exact stops_dropWhile isDecimalDigit reversed

theorem suffix_eq_iff {name : String} {digits : List Char} (some : digits ≠ []) :
    NameKey.suffix name = digits ↔ EndsIn name digits := by
  refine ⟨fun same => same ▸ endsIn_suffix name, ?_⟩
  rintro ⟨before, after, whole, line, number, stops⟩
  have run : (digits.reverse ++ before.reverse).takeWhile isDecimalDigit = digits.reverse := by
    rw [← List.head?_reverse] at stops
    exact takeWhile_of_stops (fun c member => number c (List.mem_reverse.mp member)) stops
  have reversed : name.toList.reverse = after.reverse ++ (digits.reverse ++ before.reverse) := by
    rw [whole, List.reverse_append, List.reverse_append, List.append_assoc]
  rw [NameKey.suffix, reversed]
  rcases line with rfl | rfl
  · rw [List.reverse_nil, List.nil_append]
    split
    · rename_i rest ends
      obtain ⟨last, others, backwards⟩ :=
        List.exists_cons_of_ne_nil (List.reverse_ne_nil_iff.mpr some)
      rw [backwards, List.cons_append] at ends
      obtain rfl : last = '\n' := (List.cons.inj ends).1
      have digit := number '\n' (List.mem_reverse.mp (backwards ▸ List.mem_cons_self))
      exact absurd digit (by decide)
    · rw [run, List.reverse_reverse]
  · exact (congrArg List.reverse run).trans (List.reverse_reverse digits)

/-! ## ASCII digits -/

theorem decimalDigit?_of_isDigit {c : Char} (digit : c.isDigit = true) :
    decimalDigit? c = some (c.toNat - '0'.toNat) := by
  have range : 48 ≤ c.toNat ∧ c.toNat ≤ 57 := by
    simpa [Char.isDigit, UInt32.le_iff_toNat_le] using digit
  simp [decimalDigit?, Text.decimalZeros, range]

theorem isDecimalDigit_of_isDigit {c : Char} (digit : c.isDigit = true) :
    isDecimalDigit c = true := by
  rw [isDecimalDigit, decimalDigit?_of_isDigit digit, Option.isSome_some]

theorem ofDecimalDigits_eq {digits : List Char} (number : ∀ c ∈ digits, c.isDigit = true) :
    ofDecimalDigits digits = Nat.ofDigitChars 10 digits 0 := by
  rw [ofDecimalDigits, Nat.ofDigitChars]
  refine List.foldl_ext _ _ _ fun value c member => ?_
  rw [decimalDigit?_of_isDigit (number c member), Option.getD_some]

theorem suffix_letter {letter : Char} (plain : isDecimalDigit letter = false) {digits : List Char}
    (number : ∀ c ∈ digits, c.isDigit = true) :
    NameKey.suffix (String.ofList (letter :: digits)) = digits := by
  by_cases bare : digits = []
  · subst bare
    rw [NameKey.suffix, String.toList_ofList]
    split
    · rename_i rest ends
      obtain rfl : [] = rest := (List.cons.inj ends).2
      rfl
    · rw [List.reverse_singleton, List.takeWhile_cons_of_neg (by simp [plain]), List.reverse_nil]
  · refine (suffix_eq_iff bare).mpr ⟨[letter], [], ?_, .inl rfl, ?_, ?_⟩
    · rw [String.toList_ofList, List.append_nil, List.singleton_append]
    · exact fun c member => isDecimalDigit_of_isDigit (number c member)
    · rintro c ⟨⟩
      exact plain

end Reaching.Report
