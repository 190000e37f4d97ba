import Reaching.Command.Run

/-! # Acts that follow one another

After an act that succeeds the next one does its deeds, after one that fails none is done.  So the
deeds and the result of a row of acts are known from those of its members (`bind_of_ok`,
`bind_of_error`), and it does not matter how they are grouped.

`Confined` says which deeds an act may do, and for which reasons it may fail; a row of acts is
confined if its members are. -/
set_option autoImplicit false

namespace Reaching.Command

namespace Act

variable {ε α β γ : Type}

@[ext] theorem ext {one other : Act ε α} (deeds : one.deeds = other.deeds)
    (result : one.result = other.result) : one = other := by
  cases one
  cases other
  exact congr (congrArg _ deeds) result

theorem bind_of_ok {first : Act ε α} {value : α} (ended : first.result = .ok value)
    (next : α → Act ε β) :
    first >>= next = ⟨first.deeds ++ (next value).deeds, (next value).result⟩ := by
  change first.bind next = _
  rw [Act.bind, ended]

theorem bind_of_error {first : Act ε α} {error : ε} (failed : first.result = .error error)
    (next : α → Act ε β) : first >>= next = ⟨first.deeds, .error error⟩ := by
  change first.bind next = _
  rw [Act.bind, failed]

instance : LawfulMonad (Act ε) := .mk' _
  (by
    intro α act
    change act >>= pure = act
    cases ended : act.result with
    | error error => rw [bind_of_error ended, ← ended]
    | ok value =>
        rw [bind_of_ok ended]
        exact ext (List.append_nil _) ended.symm)
  (by
    intro α β value next
    exact bind_of_ok rfl next)
  (by
    intro α β γ first next last
    cases ended : first.result with
    | error error => rw [bind_of_error ended, bind_of_error ended, bind_of_error rfl]
    | ok value =>
        rw [bind_of_ok ended, bind_of_ok ended]
        cases went : (next value).result with
        | error error => rw [bind_of_error went, bind_of_error rfl]
        | ok more =>
            rw [bind_of_ok went, bind_of_ok rfl]
            exact ext (List.append_assoc _ _ _) rfl)

theorem result_bind_eq_ok {first : Act ε α} {next : α → Act ε β} {last : β} :
    (first >>= next).result = .ok last ↔
      ∃ value, first.result = .ok value ∧ (next value).result = .ok last := by
  cases ended : first.result with
  | error error => simp [bind_of_error ended]
  | ok value => simp [bind_of_ok ended]

theorem result_bind_eq_error {first : Act ε α} {next : α → Act ε β} {error : ε} :
    (first >>= next).result = .error error ↔ first.result = .error error ∨
      ∃ value, first.result = .ok value ∧ (next value).result = .error error := by
  cases ended : first.result with
  | error other => simp [bind_of_error ended]
  | ok value => simp [bind_of_ok ended]

theorem each_of_ok (act : α → Act ε Unit) (deeds : α → List Deed) : ∀ items : List α,
    (∀ item ∈ items, act item = ⟨deeds item, .ok ()⟩) →
      each act items = ⟨items.flatMap deeds, .ok ()⟩ := by
  intro items
  induction items with
  | nil => exact fun _ => rfl
  | cons item rest ih =>
      intro done
      obtain ⟨first, others⟩ := List.forall_mem_cons.mp done
      rw [each, first, ih others]
      rfl

/-! ## What acts may do -/

structure Confined (does : Deed → Prop) (fails : ε → Prop) (act : Act ε α) : Prop where
  deeds : ∀ deed ∈ act.deeds, does deed
  failure : ∀ error, act.result = .error error → fails error

variable {does : Deed → Prop} {fails : ε → Prop}

theorem Confined.imp {may : Deed → Prop} {why : ε → Prop} {act : Act ε α}
    (confined : act.Confined does fails) (more : ∀ deed, does deed → may deed)
    (worse : ∀ error, fails error → why error) : act.Confined may why :=
  ⟨fun deed member => more deed (confined.deeds deed member),
    fun error failed => worse error (confined.failure error failed)⟩

theorem Confined.bind {first : Act ε α} {next : α → Act ε β} (begun : first.Confined does fails)
    (rest : ∀ value, first.result = .ok value → (next value).Confined does fails) :
    (first >>= next).Confined does fails := by
  cases ended : first.result with
  | error error =>
      rw [bind_of_error ended]
      refine ⟨begun.deeds, fun other same => ?_⟩
      cases same
      exact begun.failure error ended
  | ok value =>
      rw [bind_of_ok ended]
      refine ⟨fun deed member => ?_, (rest value ended).failure⟩
      rcases List.mem_append.mp member with before | after
      · exact begun.deeds deed before
      · exact (rest value ended).deeds deed after

theorem confined_pure (value : α) : (pure value : Act ε α).Confined does fails :=
  ⟨fun _ => nofun, fun _ => nofun⟩

theorem confined_deed {deed : Deed} (done : does deed) :
    (Act.deed deed : Act ε Unit).Confined does fails := by
  refine ⟨fun other member => ?_, fun _ => nofun⟩
  rw [List.mem_singleton.mp member]
  exact done

theorem confined_ofExcept {result : Except ε α}
    (failure : ∀ error, result = .error error → fails error) :
    (ofExcept result).Confined does fails :=
  ⟨fun _ => nofun, failure⟩

theorem confined_each {act : α → Act ε Unit} : ∀ items : List α,
    (∀ item ∈ items, (act item).Confined does fails) → (each act items).Confined does fails := by
  intro items
  induction items with
  | nil => exact fun _ => confined_pure ()
  | cons item rest ih =>
      intro all
      obtain ⟨first, others⟩ := List.forall_mem_cons.mp all
      exact first.bind fun _ _ => ih others

end Act

end Reaching.Command
