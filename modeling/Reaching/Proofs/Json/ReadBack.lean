import Reaching.Proofs.Json.Strings

/-! # Written values are read back

A layout that adds nothing but blanks and colons (`Layout.Plain`) loses nothing: what is printed in it
is read as the value that was printed.  The readers of values are followed along the value, with
anything behind it that cannot be a further digit, and with twice as much fuel as there are characters.

Main fact: `read?_print`. -/
set_option autoImplicit false

namespace Reaching.Json

/-- The layout adds blanks, and colons with blanks behind them. -/
structure Layout.Plain (layout : Layout) : Prop where
  lineBreak : ∀ depth, ∀ c ∈ layout.lineBreak depth, Reader.isBlank c = true
  colon : ∃ blanks, layout.colon = ':' :: blanks ∧ ∀ c ∈ blanks, Reader.isBlank c = true

theorem Layout.plain_indented (width : Nat) : (Layout.indented width).Plain where
  lineBreak depth c member := by
    rcases List.mem_cons.mp member with rfl | space
    · rfl
    · rw [List.eq_of_mem_replicate space]
      rfl
  colon := ⟨[' '], rfl, List.forall_mem_singleton.mpr rfl⟩

namespace Reader

/-! ## Blanks -/

theorem isDigit_of_isBlank {c : Char} (white : isBlank c = true) : c.isDigit = false := by
  simp only [isBlank, Bool.or_eq_true, decide_eq_true_eq] at white
  rcases white with ((rfl | rfl) | rfl) | rfl <;> rfl

theorem ends_cons {c : Char} (other : c.isDigit = false) (rest : List Char) : Ends (c :: rest) := by
  intro first member
  cases member
  exact other

section Blanks

variable {blanks : List Char} (blank : ∀ c ∈ blanks, isBlank c = true)

include blank

theorem skipBlanks_append (rest : List Char) : skipBlanks (blanks ++ rest) = skipBlanks rest :=
  List.dropWhile_append_of_pos blank

theorem value_append (fuel : Nat) (rest : List Char) :
    value fuel (blanks ++ rest) = value fuel rest := by
  cases fuel with
  | zero => rfl
  | succ fuel => rw [value, value, skipBlanks_append blank]

theorem items_append (fuel : Nat) (rest : List Char) :
    items fuel (blanks ++ rest) = items fuel rest := by
  cases fuel with
  | zero => rfl
  | succ fuel => rw [items, items, value_append blank]

theorem members_append (fuel : Nat) (rest : List Char) :
    members fuel (blanks ++ rest) = members fuel rest := by
  cases fuel with
  | zero => rfl
  | succ fuel => rw [members, members, skipBlanks_append blank]

theorem ends_append {c : Char} (other : c.isDigit = false) (rest : List Char) :
    Ends (blanks ++ c :: rest) := by
  intro first member
  cases blanks with
  | nil =>
      cases member
      exact other
  | cons head more =>
      obtain rfl : head = first := Option.some.inj member
      exact isDigit_of_isBlank (blank head List.mem_cons_self)

end Blanks

theorem skipBlanks_cons {c : Char} (visible : isBlank c = false) (rest : List Char) :
    skipBlanks (c :: rest) = c :: rest :=
  List.dropWhile_cons_of_neg (by simp [visible])

/-! ## Single steps of the readers -/

theorem isBlank_of_isDigit {c : Char} (digit : c.isDigit = true) : isBlank c = false :=
  Bool.eq_false_iff.mpr fun white => by
    rw [isDigit_of_isBlank white] at digit
    cases digit

theorem exists_digits (n : Nat) :
    ∃ c more, Nat.toDigits 10 n = c :: more ∧ c.isDigit = true := by
  cases digits : Nat.toDigits 10 n with
  | nil => exact absurd digits Nat.toDigits_ne_nil
  | cons c more => exact ⟨c, more, rfl, isDigit_toDigits n c (digits ▸ List.mem_cons_self)⟩

theorem toList_ofNat (n : Nat) : (toString (Int.ofNat n)).toList = Nat.toDigits 10 n :=
  Nat.toList_repr

theorem toList_negSucc (n : Nat) :
    (toString (Int.negSucc n)).toList = '-' :: Nat.toDigits 10 (n + 1) := by
  rw [Int.toString_eq_repr, Int.repr]
  simp

theorem value_digit {c : Char} (digit : c.isDigit = true) (fuel : Nat) (rest : List Char) :
    value (fuel + 1) (c :: rest) =
      (natural (c :: rest)).map fun found => (.int found.1, found.2) := by
  rw [value, skipBlanks_cons (isBlank_of_isDigit digit)]
  split
  case h_8 => rfl
  all_goals
    rename_i same
    cases same
    cases digit

theorem value_int (n : Int) (fuel : Nat) {rest : List Char} (ends : Ends rest) :
    value (fuel + 1) ((toString n).toList ++ rest) = some (.int n, rest) := by
  cases n with
  | ofNat n =>
      have read := natural_written n ends
      obtain ⟨c, more, digits, digit⟩ := exists_digits n
      rw [toList_ofNat]
      rw [digits, List.cons_append] at read ⊢
      rw [value_digit digit, read]
      rfl
  | negSucc n =>
      rw [toList_negSucc, List.cons_append, value, skipBlanks_cons rfl]
      change (natural (Nat.toDigits 10 (n + 1) ++ rest)).map _ = _
      rw [natural_written (n + 1) ends]
      rfl

theorem value_string (text : String) (fuel : Nat) (rest : List Char) :
    value (fuel + 1) (Printer.string text ++ rest) = some (.string text, rest) := by
  have written : Printer.string text ++ rest =
      '"' :: (text.toList.flatMap Printer.escape ++ '"' :: rest) := by
    simp [Printer.string]
  rw [written, value, skipBlanks_cons rfl]
  change (string _).map _ = _
  rw [string_written]
  rfl

theorem value_array {c : Char} {blanks : List Char} (blank : ∀ c ∈ blanks, isBlank c = true)
    (visible : isBlank c = false) (opens : c ≠ ']') (fuel : Nat) (rest : List Char) :
    value (fuel + 1) ('[' :: (blanks ++ c :: rest)) =
      (items fuel (c :: rest)).map fun found => (.array found.1, found.2) := by
  have ahead : skipBlanks (blanks ++ c :: rest) = c :: rest := by
    rw [skipBlanks_append blank, skipBlanks_cons visible]
  have bracket : skipBlanks ('[' :: (blanks ++ c :: rest)) = '[' :: (blanks ++ c :: rest) :=
    skipBlanks_cons rfl _
  simp [value, bracket, ahead, opens]

theorem value_object {blanks : List Char} (blank : ∀ c ∈ blanks, isBlank c = true) (fuel : Nat)
    (rest : List Char) :
    value (fuel + 1) ('{' :: (blanks ++ '"' :: rest)) =
      (members fuel ('"' :: rest)).map fun found => (.object found.1, found.2) := by
  have ahead : skipBlanks (blanks ++ '"' :: rest) = '"' :: rest := by
    rw [skipBlanks_append blank, skipBlanks_cons rfl]
  have brace : skipBlanks ('{' :: (blanks ++ '"' :: rest)) = '{' :: (blanks ++ '"' :: rest) :=
    skipBlanks_cons rfl _
  simp [value, brace, ahead]

section Rows

variable {fuel : Nat} {blanks left : List Char}

theorem items_last {cs : List Char} {item : Value} (blank : ∀ c ∈ blanks, isBlank c = true)
    (read : value fuel cs = some (item, blanks ++ ']' :: left)) :
    items (fuel + 1) cs = some ([item], left) := by
  rw [items, read]
  dsimp only [Option.bind_eq_bind, Option.bind_some]
  rw [skipBlanks_append blank, skipBlanks_cons rfl]
  rfl

theorem items_more {cs : List Char} {item : Value} {rest : List Value} {after : List Char}
    (read : value fuel cs = some (item, ',' :: after))
    (others : items fuel after = some (rest, left)) :
    items (fuel + 1) cs = some (item :: rest, left) := by
  rw [items, read]
  dsimp only [Option.bind_eq_bind, Option.bind_some]
  rw [skipBlanks_cons rfl]
  change (items fuel after).bind _ = _
  rw [others]
  rfl

/-- Behind the name of a member and the colon its value is read. -/
theorem members_succ (name : String) (cs : List Char) :
    members (fuel + 1) (Printer.string name ++ ':' :: cs) =
      (value fuel cs).bind fun found =>
        match skipBlanks found.2 with
        | ',' :: left => (members fuel left).bind fun more => some ((name, found.1) :: more.1, more.2)
        | '}' :: left => some ([(name, found.1)], left)
        | _ => none := by
  have written : Printer.string name ++ ':' :: cs =
      '"' :: (name.toList.flatMap Printer.escape ++ '"' :: ':' :: cs) := by
    simp [Printer.string]
  rw [written, members, skipBlanks_cons rfl]
  change (string _).bind _ = _
  rw [string_written, Option.bind_some]
  dsimp only
  rw [skipBlanks_cons rfl]
  rfl

theorem members_last {name : String} {cs : List Char} {member : Value}
    (blank : ∀ c ∈ blanks, isBlank c = true)
    (read : value fuel cs = some (member, blanks ++ '}' :: left)) :
    members (fuel + 1) (Printer.string name ++ ':' :: cs) = some ([(name, member)], left) := by
  rw [members_succ, read, Option.bind_some, skipBlanks_append blank, skipBlanks_cons rfl]
  rfl

theorem members_more {name : String} {cs : List Char} {member : Value}
    {rest : List (String × Value)} {after : List Char}
    (read : value fuel cs = some (member, ',' :: after))
    (others : members fuel after = some (rest, left)) :
    members (fuel + 1) (Printer.string name ++ ':' :: cs) = some ((name, member) :: rest, left) := by
  rw [members_succ, read, Option.bind_some, skipBlanks_cons rfl]
  change (members fuel after).bind _ = _
  rw [others]
  rfl

end Rows

/-! ## Whole values -/

/-- A written value starts with a character that neither is blank nor closes an array. -/
theorem exists_head (layout : Layout) (depth : Nat) (v : Value) :
    ∃ c more, Printer.value layout depth v = c :: more ∧ isBlank c = false ∧ c ≠ ']' := by
  match v with
  | .null => exact ⟨_, _, rfl, rfl, by decide⟩
  | .bool true => exact ⟨_, _, rfl, rfl, by decide⟩
  | .bool false => exact ⟨_, _, rfl, rfl, by decide⟩
  | .int (.ofNat n) =>
      obtain ⟨c, more, digits, digit⟩ := exists_digits n
      refine ⟨c, more, ?_, isBlank_of_isDigit digit, ?_⟩
      · rw [Printer.value, toList_ofNat, digits]
      · rintro rfl
        cases digit
  | .int (.negSucc n) =>
      refine ⟨'-', Nat.toDigits 10 (n + 1), ?_, rfl, by decide⟩
      rw [Printer.value, toList_negSucc]
  | .string text => exact ⟨_, _, rfl, rfl, by decide⟩
  | .array [] => exact ⟨_, _, rfl, rfl, by decide⟩
  | .array (item :: rest) => exact ⟨'[', _, rfl, rfl, by decide⟩
  | .object [] => exact ⟨_, _, rfl, rfl, by decide⟩
  | .object ((name, member) :: rest) => exact ⟨'{', _, rfl, rfl, by decide⟩

section Written

variable {layout : Layout} (plain : layout.Plain)

theorem value_cons_array (depth : Nat) (item : Value) (rest : List Value) :
    Printer.value layout depth (.array (item :: rest)) = '[' :: (layout.lineBreak (depth + 1) ++
      (Printer.value layout (depth + 1) item ++
        (Printer.items layout depth rest ++ (layout.lineBreak depth ++ [']'])))) := by
  simp [Printer.value]

theorem value_cons_object (depth : Nat) (name : String) (member : Value)
    (rest : List (String × Value)) :
    Printer.value layout depth (.object ((name, member) :: rest)) =
      '{' :: (layout.lineBreak (depth + 1) ++ (Printer.string name ++ (layout.colon ++
        (Printer.value layout (depth + 1) member ++
          (Printer.members layout depth rest ++ (layout.lineBreak depth ++ ['}'])))))) := by
  simp [Printer.value]

theorem items_cons (depth : Nat) (item : Value) (rest : List Value) :
    Printer.items layout depth (item :: rest) = ',' :: (layout.lineBreak (depth + 1) ++
      (Printer.value layout (depth + 1) item ++ Printer.items layout depth rest)) := by
  simp [Printer.items]

theorem members_cons (depth : Nat) (name : String) (member : Value)
    (rest : List (String × Value)) :
    Printer.members layout depth ((name, member) :: rest) =
      ',' :: (layout.lineBreak (depth + 1) ++ (Printer.string name ++ (layout.colon ++
        (Printer.value layout (depth + 1) member ++ Printer.members layout depth rest)))) := by
  simp [Printer.members]

include plain

mutual

theorem value_written : ∀ (v : Value) (depth fuel : Nat) (rest : List Char),
    2 * (Printer.value layout depth v).length ≤ fuel → Ends rest →
      value fuel (Printer.value layout depth v ++ rest) = some (v, rest)
  | v, depth, 0, rest, enough, _ => by
      obtain ⟨c, more, starts, _⟩ := exists_head layout depth v
      rw [starts] at enough
      cases enough
  | .null, _, _ + 1, _, _, _ => rfl
  | .bool true, _, _ + 1, _, _, _ => rfl
  | .bool false, _, _ + 1, _, _, _ => rfl
  | .int n, _, fuel + 1, rest, _, ends => value_int n fuel ends
  | .string text, _, fuel + 1, rest, _, _ => value_string text fuel rest
  | .array [], _, _ + 1, _, _, _ => rfl
  | .object [], _, _ + 1, _, _, _ => rfl
  | .array (item :: others), depth, fuel + 1, rest, enough, _ => by
      rw [value_cons_array] at enough ⊢
      obtain ⟨c, more, starts, visible, opens⟩ := exists_head layout (depth + 1) item
      have read := items_written item others depth fuel rest (by simp at enough ⊢; omega)
      simp only [starts, List.cons_append, List.append_assoc, List.nil_append] at read ⊢
      rw [value_array (plain.lineBreak (depth + 1)) visible opens, read]
      rfl
  | .object ((name, member) :: others), depth, fuel + 1, rest, enough, _ => by
      rw [value_cons_object] at enough ⊢
      have read := members_written name member others depth fuel rest (by simp at enough ⊢; omega)
      simp only [Printer.string, List.cons_append, List.append_assoc, List.nil_append] at read ⊢
      rw [value_object (plain.lineBreak (depth + 1)), read]
      rfl
termination_by v => sizeOf v

/-- Reads items from behind the first blanks to the closing bracket. -/
theorem items_written : ∀ (item : Value) (others : List Value) (depth fuel : Nat) (left : List Char),
    2 * (Printer.value layout (depth + 1) item ++ Printer.items layout depth others).length < fuel →
      items fuel (Printer.value layout (depth + 1) item ++ (Printer.items layout depth others ++
        (layout.lineBreak depth ++ ']' :: left))) = some (item :: others, left)
  | _, _, _, 0, _, enough => absurd enough (Nat.not_lt_zero _)
  | item, [], depth, fuel + 1, left, enough => by
      refine items_last (plain.lineBreak depth) ?_
      refine value_written item (depth + 1) fuel _ (by simp at enough; omega) ?_
      exact ends_append (plain.lineBreak depth) rfl left
  | item, next :: others, depth, fuel + 1, left, enough => by
      rw [items_cons] at enough ⊢
      have later := items_written next others depth fuel left (by simp at enough ⊢; omega)
      rw [← items_append (plain.lineBreak (depth + 1))] at later
      simp only [List.cons_append, List.append_assoc]
      have small : 2 * (Printer.value layout (depth + 1) item).length ≤ fuel := by
        simp at enough
        omega
      exact items_more (value_written item (depth + 1) fuel _ small (ends_cons rfl _)) later
termination_by item others => sizeOf item + sizeOf others + 1

/-- Reads members from behind the first blanks to the closing brace. -/
theorem members_written : ∀ (name : String) (member : Value) (others : List (String × Value))
    (depth fuel : Nat) (left : List Char),
    2 * (Printer.value layout (depth + 1) member ++ Printer.members layout depth others).length <
      fuel →
      members fuel (Printer.string name ++ (layout.colon ++ (Printer.value layout (depth + 1) member ++
        (Printer.members layout depth others ++ (layout.lineBreak depth ++ '}' :: left))))) =
          some ((name, member) :: others, left)
  | _, _, _, _, 0, _, enough => absurd enough (Nat.not_lt_zero _)
  | name, member, [], depth, fuel + 1, left, enough => by
      obtain ⟨blanks, colon, blank⟩ := plain.colon
      rw [colon, List.cons_append]
      refine members_last (plain.lineBreak depth) ?_
      rw [value_append blank]
      refine value_written member (depth + 1) fuel _ (by simp at enough; omega) ?_
      exact ends_append (plain.lineBreak depth) rfl left
  | name, member, (next, more) :: others, depth, fuel + 1, left, enough => by
      rw [members_cons] at enough ⊢
      have later := members_written next more others depth fuel left (by simp at enough ⊢; omega)
      rw [← members_append (plain.lineBreak (depth + 1))] at later
      obtain ⟨blanks, colon, blank⟩ := plain.colon
      simp only [colon, List.cons_append, List.append_assoc] at later ⊢
      have small : 2 * (Printer.value layout (depth + 1) member).length ≤ fuel := by
        simp at enough
        omega
      exact members_more ((value_append blank fuel _).trans
        (value_written member (depth + 1) fuel _ small (ends_cons rfl _))) later
termination_by _ member others => sizeOf member + sizeOf others + 1

end

end Written

end Reader

theorem read?_print {layout : Layout} (plain : layout.Plain) (v : Value) :
    Value.read? (v.print layout) = some v := by
  have enough : 2 * (Printer.value layout 0 v).length ≤ 2 * (Printer.value layout 0 v).length + 1 :=
    Nat.le_succ _
  have read := Reader.value_written plain v 0 _ [] enough nofun
  rw [List.append_nil] at read
  rw [Value.read?, Value.print, String.toList_ofList]
  dsimp only
  rw [read]
  rfl

end Reaching.Json
