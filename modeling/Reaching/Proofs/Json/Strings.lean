import Reaching.Json.Printer
import Reaching.Json.Reader

/-! # Written strings and numbers are read back

A character is written by its escape and read as one code or as a pair of surrogates (`units`), which
`characters` joins again.  So a reader that stands behind the opening quote of a written string gives
the string and stops behind the closing quote (`string_written`).

A written number is read back if no digit follows it (`natural_written`). -/
set_option autoImplicit false

namespace Reaching.Json

namespace Reader

/-! ## Codes of characters -/

theorem hexValue?_hexDigit : ∀ n < 16, Text.hexValue? (Text.hexDigit n) = some n := by decide

def units (c : Char) : List Nat :=
  if c.toNat < 0x10000 then [c.toNat]
  else [0xD800 + (c.toNat - 0x10000) / 0x400, 0xDC00 + (c.toNat - 0x10000) % 0x400]

def after (before : List Nat) (read : Option (List Nat × List Char)) :
    Option (List Nat × List Char) :=
  read.map fun found => (before ++ found.1, found.2)

theorem after_after (first second : List Nat) (read : Option (List Nat × List Char)) :
    after first (after second read) = after (first ++ second) read := by
  cases read with
  | none => rfl
  | some found => simp [after]

theorem codes_unit {code : Nat} (small : code < 0x10000) (rest : List Char) :
    codes (Printer.unit code ++ rest) = after [code] (codes rest) := by
  have digit := fun n => hexValue?_hexDigit (n % 16) (Nat.mod_lt n (by decide))
  have value : (((code / 16 / 16 / 16 % 16) * 16 + code / 16 / 16 % 16) * 16 + code / 16 % 16) * 16 +
      code % 16 = code := by omega
  have written : Printer.unit code ++ rest = '\\' :: 'u' :: Text.hexDigit (code / 16 / 16 / 16 % 16) ::
      Text.hexDigit (code / 16 / 16 % 16) :: Text.hexDigit (code / 16 % 16) ::
        Text.hexDigit (code % 16) :: rest := rfl
  rw [written, codes, unit?, digit, digit, digit, digit]
  simp only [Option.bind_eq_bind, Option.bind_some, Option.pure_def, value]
  cases codes rest with
  | none => rfl
  | some found => rfl

theorem codes_letter {letter : Char} {code : Nat} (plain : letter ≠ 'u')
    (escaped : letterEscape? letter = some code) (rest : List Char) :
    codes ('\\' :: letter :: rest) = after [code] (codes rest) := by
  rw [codes, escaped]
  · cases codes rest with
    | none => rfl
    | some found => rfl
  · exact fun _ _ _ _ _ same => absurd same plain

theorem codes_plain {c : Char} (quote : c ≠ '"') (slash : c ≠ '\\') (rest : List Char) :
    codes (c :: rest) = after [c.toNat] (codes rest) := by
  rw [codes]
  · cases codes rest with
    | none => rfl
    | some found => rfl
  · exact quote
  · exact fun _ _ _ _ _ same => absurd same slash
  · exact fun _ _ same => absurd same slash

theorem units_of_small {c : Char} (small : c.toNat < 0x10000) : units c = [c.toNat] :=
  if_pos small

theorem toNat_lt (c : Char) : c.toNat < 0x110000 := by
  rcases c.valid with low | high
  · exact Nat.lt_trans low (by decide)
  · exact high.2

theorem codes_escape (c : Char) (rest : List Char) :
    codes (Printer.escape c ++ rest) = after (units c) (codes rest) := by
  rw [Printer.escape]
  -- Seven characters are escaped by letters.
  iterate 7
    split
    · subst c
      exact codes_letter (by decide) rfl rest
  rename_i quote slash _ _ _ _ _
  split
  · rename_i printable
    have small : c.toNat < 0x10000 := Nat.lt_of_le_of_lt (m := 126) printable.2 (by decide)
    rw [units_of_small small]
    exact codes_plain quote slash rest
  split
  · rename_i small
    rw [units_of_small small]
    exact codes_unit small rest
  · rename_i large
    have high : 0xD800 + (c.toNat - 0x10000) / 0x400 < 0x10000 := by
      have := toNat_lt c
      omega
    have low : 0xDC00 + (c.toNat - 0x10000) % 0x400 < 0x10000 := by omega
    rw [List.append_assoc, codes_unit high, codes_unit low, after_after, units, if_neg large]
    rfl

theorem codes_written (text rest : List Char) :
    codes (text.flatMap Printer.escape ++ '"' :: rest) = some (text.flatMap units, rest) := by
  induction text with
  | nil => rw [List.flatMap_nil, List.nil_append, codes]; rfl
  | cons c text ih =>
      rw [List.flatMap_cons, List.append_assoc, codes_escape, ih]
      rfl

/-! ## Characters of codes -/

theorem isHigh_iff {code : Nat} : isHigh code = true ↔ 0xD800 ≤ code ∧ code < 0xDC00 := by
  simp [isHigh]

theorem isLow_iff {code : Nat} : isLow code = true ↔ 0xDC00 ≤ code ∧ code < 0xE000 := by
  simp [isLow]

theorem characters_single {code : Nat} (noHigh : isHigh code = false) (noLow : isLow code = false)
    (rest : List Nat) :
    characters (code :: rest) = (characters rest).map (Char.ofNat code :: ·) := by
  cases rest with
  | nil => simp [characters, noHigh, noLow]
  | cons next rest => simp [characters, noHigh, noLow]

theorem characters_pair {high low : Nat} (isFirst : isHigh high = true) (isLast : isLow low = true)
    (rest : List Nat) :
    characters (high :: low :: rest) = (characters rest).map
      (Char.ofNat (0x10000 + (high - 0xD800) * 0x400 + (low - 0xDC00)) :: ·) := by
  simp [characters, isFirst, isLast]

/-- A character is no surrogate. -/
theorem not_surrogate (c : Char) : isHigh c.toNat = false ∧ isLow c.toNat = false := by
  rw [Bool.eq_false_iff, Bool.eq_false_iff, Ne, Ne, isHigh_iff, isLow_iff]
  have valid : c.toNat < 0xD800 ∨ 0xDFFF < c.toNat ∧ c.toNat < 0x110000 := c.valid
  omega

theorem characters_units (c : Char) (rest : List Nat) :
    characters (units c ++ rest) = (characters rest).map (c :: ·) := by
  rw [units]
  split
  · obtain ⟨noHigh, noLow⟩ := not_surrogate c
    rw [List.singleton_append, characters_single noHigh noLow, Char.ofNat_toNat]
  · rename_i large
    have bound := toNat_lt c
    rw [List.cons_append, List.singleton_append, characters_pair]
    · have whole : 0x10000 + (0xD800 + (c.toNat - 0x10000) / 0x400 - 0xD800) * 0x400 +
          (0xDC00 + (c.toNat - 0x10000) % 0x400 - 0xDC00) = c.toNat := by omega
      rw [whole, Char.ofNat_toNat]
    · rw [isHigh_iff]
      omega
    · rw [isLow_iff]
      omega

theorem characters_written (text : List Char) : characters (text.flatMap units) = some text := by
  induction text with
  | nil => rfl
  | cons c text ih =>
      rw [List.flatMap_cons, characters_units, ih]
      rfl

/-! ## Strings and numbers -/

/-- A written string, read from behind its opening quote. -/
theorem string_written (text : String) (rest : List Char) :
    string (text.toList.flatMap Printer.escape ++ '"' :: rest) = some (text, rest) := by
  rw [string, codes_written]
  simp only [Option.bind_eq_bind, Option.bind_some, characters_written, Option.pure_def,
    String.ofList_toList]

def Ends (rest : List Char) : Prop := ∀ c ∈ rest.head?, c.isDigit = false

theorem takeWhile_isDigit {digits rest : List Char} (number : ∀ c ∈ digits, c.isDigit = true)
    (ends : Ends rest) : (digits ++ rest).takeWhile Char.isDigit = digits := by
  rw [List.takeWhile_append_of_pos number]
  cases rest with
  | nil => rw [List.takeWhile_nil, List.append_nil]
  | cons c rest =>
      rw [List.takeWhile_cons_of_neg (by simp [ends c rfl]), List.append_nil]

theorem isDigit_toDigits (n : Nat) : ∀ c ∈ Nat.toDigits 10 n, c.isDigit = true :=
  fun _ member => Nat.isDigit_of_mem_toDigits (by decide) (by decide) member

theorem natural_written (n : Nat) {rest : List Char} (ends : Ends rest) :
    natural ((Nat.toDigits 10 n) ++ rest) = some (n, rest) := by
  have value : decimal (Nat.toDigits 10 n) = n := Nat.ofDigitChars_ten_toDigits
  rw [natural, takeWhile_isDigit (isDigit_toDigits n) ends]
  split
  · rename_i none
    exact absurd none Nat.toDigits_ne_nil
  · rw [value, List.drop_left]

end Reader

end Reaching.Json
