import Mathlib.Data.List.Forall2

/-! # Calls that may fail

A call that follows another succeeds with what both succeed with, and fails with the first error that
is met (`bind_eq_ok`, `bind_eq_error`).  Calls made for one item of a list after the other succeed
together just if each does, and their values stand beside the items (`mapM_eq_ok_iff`). -/
set_option autoImplicit false

namespace Reaching.Calls

variable {ε α β : Type}

/-! ## One call after another -/

theorem bind_eq_ok {call : Except ε α} {next : α → Except ε β} {last : β} :
    call >>= next = .ok last ↔ ∃ value, call = .ok value ∧ next value = .ok last := by
  cases call with
  | error error =>
      constructor
      · exact nofun
      · rintro ⟨_, failed, _⟩
        cases failed
  | ok value =>
      constructor
      · exact fun done => ⟨value, rfl, done⟩
      · rintro ⟨_, same, done⟩
        cases same
        exact done

theorem bind_eq_error {call : Except ε α} {next : α → Except ε β} {error : ε} :
    call >>= next = .error error ↔
      call = .error error ∨ ∃ value, call = .ok value ∧ next value = .error error := by
  cases call with
  | error other =>
      constructor
      · intro failed
        cases failed
        exact .inl rfl
      · rintro (same | ⟨_, done, _⟩)
        · cases same
          rfl
        · cases done
  | ok value =>
      constructor
      · exact fun failed => .inr ⟨value, rfl, failed⟩
      · rintro (failed | ⟨_, same, later⟩)
        · cases failed
        · cases same
          exact later

theorem exists_bind_ok {call : Except ε α} {next : α → Except ε β}
    (first : ∃ value, call = .ok value) (later : ∀ value, ∃ last, next value = .ok last) :
    ∃ last, call >>= next = .ok last := by
  obtain ⟨value, rfl⟩ := first
  exact later value

theorem mapError_eq_ok {φ : Type} {wrap : ε → φ} {call : Except ε α} {value : α} :
    call.mapError wrap = .ok value ↔ call = .ok value := by
  cases call with
  | ok other => constructor <;> intro same <;> cases same <;> rfl
  | error error => exact iff_of_false nofun nofun

theorem toOption_bind (call : Except ε α) (next : α → Except ε β) :
    (call >>= next).toOption = call.toOption.bind fun value => (next value).toOption := by
  cases call <;> rfl

/-! ## A call for each item -/

theorem mapM_eq_ok_iff {call : α → Except ε β} {items : List α} {values : List β} :
    items.mapM call = .ok values ↔
      List.Forall₂ (fun item value => call item = .ok value) items values := by
  induction items generalizing values with
  | nil =>
      rw [List.mapM_nil, List.forall₂_nil_left_iff]
      exact ⟨fun done => (Except.ok.inj done).symm, fun none => none ▸ rfl⟩
  | cons item rest ih =>
      rw [List.mapM_cons, bind_eq_ok, List.forall₂_cons_left_iff]
      constructor
      · rintro ⟨value, called, done⟩
        obtain ⟨others, mapped, same⟩ := bind_eq_ok.mp done
        exact ⟨value, others, called, ih.mp mapped, (Except.ok.inj same).symm⟩
      · rintro ⟨value, others, called, related, rfl⟩
        exact ⟨value, called, bind_eq_ok.mpr ⟨others, ih.mpr related, rfl⟩⟩

theorem mapM_of_ok {call : α → Except ε β} {value : α → β} {items : List α}
    (each : ∀ item ∈ items, call item = .ok (value item)) :
    items.mapM call = .ok (items.map value) :=
  mapM_eq_ok_iff.mpr (List.forall₂_map_right_iff.mpr (List.forall₂_same.mpr each))

theorem forall_of_mapM {call : α → Except ε β} {p : α → Prop}
    (each : ∀ item value, call item = .ok value → p item) {items : List α} {values : List β}
    (mapped : items.mapM call = .ok values) : ∀ item ∈ items, p item := by
  have both := (mapM_eq_ok_iff.mp mapped).imp fun item value called =>
    And.intro (each item value called) called
  exact ((List.forall₂_and_left _ _).mp both).1

theorem forall_values_of_mapM {call : α → Except ε β} {p : β → Prop}
    (each : ∀ item value, call item = .ok value → p value) {items : List α} {values : List β}
    (mapped : items.mapM call = .ok values) : ∀ value ∈ values, p value := by
  have both := (mapM_eq_ok_iff.mp mapped).flip.imp fun value item called =>
    And.intro (each item value called) called
  exact ((List.forall₂_and_left _ _).mp both).1

theorem exists_mapM {call : α → Except ε β} {r : α → β → Prop} {items : List α}
    (each : ∀ item ∈ items, ∃ value, call item = .ok value ∧ r item value) :
    ∃ values, items.mapM call = .ok values ∧ List.Forall₂ r items values := by
  induction items with
  | nil => exact ⟨[], rfl, .nil⟩
  | cons item rest ih =>
      obtain ⟨first, others⟩ := List.forall_mem_cons.mp each
      obtain ⟨value, called, related⟩ := first
      obtain ⟨values, mapped, all⟩ := ih others
      refine ⟨value :: values, ?_, .cons related all⟩
      rw [List.mapM_cons, called, mapped]
      rfl

theorem exists_mapM_ok {call : α → Except ε β} {items : List α}
    (each : ∀ item ∈ items, ∃ value, call item = .ok value) :
    ∃ values, items.mapM call = .ok values := by
  obtain ⟨values, mapped, _⟩ := exists_mapM (r := fun _ _ => True) fun item listed =>
    (each item listed).imp fun _ called => ⟨called, trivial⟩
  exact ⟨values, mapped⟩

theorem exists_error_of_mapM {call : α → Except ε β} {items : List α} {error : ε}
    (failed : items.mapM call = .error error) : ∃ item ∈ items, call item = .error error := by
  induction items with
  | nil => cases failed
  | cons item rest ih =>
      rw [List.mapM_cons, bind_eq_error] at failed
      rcases failed with first | ⟨_, _, later⟩
      · exact ⟨item, List.mem_cons_self, first⟩
      · rcases bind_eq_error.mp later with others | ⟨_, _, done⟩
        · obtain ⟨other, member, found⟩ := ih others
          exact ⟨other, List.mem_cons_of_mem _ member, found⟩
        · cases done

theorem toOption_mapM {call : α → Except ε β} {items others : List α}
    (same : List.Forall₂ (fun item other => (call item).toOption = (call other).toOption) items
      others) : (items.mapM call).toOption = (others.mapM call).toOption := by
  induction same with
  | nil => rfl
  | cons first _ ih =>
      rw [List.mapM_cons, List.mapM_cons, toOption_bind, toOption_bind, first]
      simp only [toOption_bind, ih]

/-- What was written item by item can be read back if each item can. -/
theorem mapM_map_eq_some (read : β → Option α) (write : α → β)
    (back : ∀ item, read (write item) = some item) (items : List α) :
    (items.map write).mapM read = some items := by
  induction items with
  | nil => rfl
  | cons item rest ih =>
      rw [List.map_cons, List.mapM_cons, back, ih]
      rfl

end Reaching.Calls
