import Reaching.Proofs.Calls
import Reaching.Proofs.Solver.Expression
import Mathlib.Data.Set.Lattice
import Mathlib.Order.CompletePartialOrder

/-! # One pass, seen from one definition

A pass changes the data points that hold a definition `d` in a way that depends on these data
points alone: `storesHeld` follows the stores of a pass for `d` only, and `stores_spec` and
`pass_spec` say that the states of a pass hold `d` where it says.  A pass over a state that covers
the equations, that is, has all the names that occur in them, never fails and keeps the names.

If no equation subtracts a data point, `storesHeld` is monotone (`storesHeld_mono`) and never
leaves a set that the equations do not lead out of (`storesHeld_subset`).  If the targets are
distinct, what a whole pass leaves unchanged satisfies every equation (`mem_iff_of_passHeld_eq`).
-/
set_option autoImplicit false

namespace Reaching.Solver

/-- Tells whether all data points that the equations refer to are targets. -/
def Closed (equations : List Equation) : Prop :=
  ∀ equation ∈ equations, ∀ name ∈ equation.value.references, name ∈ targets equations

/-- Tells whether no equation subtracts a data point. -/
def ConstantSubtrahends (equations : List Equation) : Prop :=
  ∀ equation ∈ equations, equation.value.subtracted = []

instance (equations : List Equation) : Decidable (Closed equations) :=
  inferInstanceAs (Decidable (∀ equation ∈ equations, ∀ name ∈ equation.value.references,
    name ∈ targets equations))

instance (equations : List Equation) : Decidable (ConstantSubtrahends equations) :=
  inferInstanceAs (Decidable (∀ equation ∈ equations, equation.value.subtracted = []))

/-! ## States that have all the names that occur -/

def State.Covers (state : State) (equations : List Equation) : Prop :=
  ∀ equation ∈ equations, equation.target ∈ state.names ∧
    ∀ name ∈ equation.value.references, name ∈ state.names

theorem State.Covers.of_names {state other : State} {equations : List Equation}
    (covers : state.Covers equations) (names : other.names = state.names) :
    other.Covers equations := by
  intro equation member
  rw [names]
  exact covers equation member

theorem Closed.covers {equations : List Equation} (closed : Closed equations) {state : State}
    (names : ∀ name ∈ targets equations, name ∈ state.names) : state.Covers equations := by
  intro equation member
  refine ⟨names _ (List.mem_map_of_mem member), fun name reference => ?_⟩
  exact names name (closed equation member name reference)

/-! ## What an equation reads -/

namespace Scheme

variable {α β : Type} (scheme : Scheme)

@[simp] theorem view_self (state : α) : scheme.view state state = state := by
  cases scheme <;> rfl

theorem apply_view (f : α → β) (start soFar : α) :
    f (scheme.view start soFar) = scheme.view (f start) (f soFar) := by
  cases scheme <;> rfl

theorem view_of_both {p : α → Prop} {start soFar : α} (known : p start) (present : p soFar) :
    p (scheme.view start soFar) := by
  cases scheme
  · exact present
  · exact known

end Scheme

/-! ## Stores -/

def storeHeld (target : String) (yields : Prop) (held : Set String) : Set String :=
  {name | if name = target then yields else name ∈ held}

theorem mem_storeHeld_self (target : String) (yields : Prop) (held : Set String) :
    target ∈ storeHeld target yields held ↔ yields := by
  simp [storeHeld]

theorem mem_storeHeld_ne {target name : String} (yields : Prop) (held : Set String)
    (different : name ≠ target) : name ∈ storeHeld target yields held ↔ name ∈ held := by
  simp [storeHeld, different]

theorem storeHeld_of_iff {target : String} {yields : Prop} {held : Set String}
    (same : yields ↔ target ∈ held) : storeHeld target yields held = held := by
  ext name
  by_cases here : name = target
  · rw [here, mem_storeHeld_self, same]
  · exact mem_storeHeld_ne yields held here

theorem storeHeld_mono {target : String} {yields more : Prop} {held larger : Set String}
    (implied : yields → more) (grows : held ⊆ larger) :
    storeHeld target yields held ⊆ storeHeld target more larger := by
  intro name member
  by_cases here : name = target
  · subst here
    rw [mem_storeHeld_self] at member ⊢
    exact implied member
  · rw [mem_storeHeld_ne _ _ here] at member ⊢
    exact grows member

theorem held_put (state : State) (target d : String) (points : PointSet) :
    (state.put target points).held d = storeHeld target (d ∈ points) (state.held d) := by
  ext name
  by_cases here : name = target
  · rw [here, mem_storeHeld_self, State.mem_held, State.points_put_self]
  · rw [mem_storeHeld_ne _ _ here, State.mem_held, State.points_put_ne _ _ _ _ here, State.mem_held]

/-- Follows the stores of a pass that began at `start`, for one definition. -/
def storesHeld (d : String) (scheme : Scheme) (start : Set String) :
    List Equation → Set String → Set String
  | [], soFar => soFar
  | equation :: rest, soFar =>
    storesHeld d scheme start rest
      (storeHeld equation.target (equation.value.Yields d (scheme.view start soFar)) soFar)

def passHeld (d : String) (scheme : Scheme) (equations : List Equation) (held : Set String) :
    Set String :=
  storesHeld d scheme held equations held

theorem stores_cons_eq_ok {scheme : Scheme} {start soFar next : State} {equation : Equation}
    {rest : List Equation} :
    stores scheme start (equation :: rest) soFar = .ok next ↔
      ∃ points, evaluate (scheme.view start soFar) equation.value = .ok points ∧
        stores scheme start rest (soFar.put equation.target points) = .ok next := by
  rw [stores, Calls.bind_eq_ok]

theorem stores_spec (scheme : Scheme) (start : State) : ∀ (equations : List Equation)
    (soFar : State), start.Covers equations → soFar.Covers equations →
      ∃ next, stores scheme start equations soFar = .ok next ∧ next.names = soFar.names ∧
        ∀ d, next.held d = storesHeld d scheme (start.held d) equations (soFar.held d) := by
  intro equations
  induction equations with
  | nil => intro soFar _ _; exact ⟨soFar, rfl, rfl, fun _ => rfl⟩
  | cons equation rest ih =>
      intro soFar known present
      have viewed : (scheme.view start soFar).Covers (equation :: rest) :=
        scheme.view_of_both (p := (State.Covers · (equation :: rest))) known present
      obtain ⟨points, value, yielded⟩ :=
        evaluate_spec equation.value (viewed equation List.mem_cons_self).2
      have kept : (soFar.put equation.target points).names = soFar.names :=
        State.names_put points (present equation List.mem_cons_self).1
      obtain ⟨next, made, names, held⟩ := ih (soFar.put equation.target points)
        (fun e member => known e (List.mem_cons_of_mem _ member))
        (State.Covers.of_names (fun e member => present e (List.mem_cons_of_mem _ member)) kept)
      refine ⟨next, stores_cons_eq_ok.mpr ⟨points, value, made⟩, names.trans kept, fun d => ?_⟩
      have seen : (scheme.view start soFar).held d = scheme.view (start.held d) (soFar.held d) :=
        scheme.apply_view (State.held d) start soFar
      rw [held, held_put, storesHeld, ← seen, propext (yielded d)]

theorem pass_spec (scheme : Scheme) {equations : List Equation} {state : State}
    (covers : state.Covers equations) :
    ∃ next, pass scheme equations state = .ok next ∧ next.names = state.names ∧
      ∀ d, next.held d = passHeld d scheme equations (state.held d) :=
  stores_spec scheme state equations state covers covers

/-! ## Monotone passes -/

theorem view_subset {scheme : Scheme} {start larger soFar more : Set String}
    (below : start ⊆ larger) (grows : soFar ⊆ more) :
    scheme.view start soFar ⊆ scheme.view larger more := by
  cases scheme
  · exact grows
  · exact below

theorem storesHeld_mono (d : String) (scheme : Scheme) {start larger : Set String}
    (below : start ⊆ larger) : ∀ (equations : List Equation) (soFar more : Set String),
      ConstantSubtrahends equations → soFar ⊆ more →
        storesHeld d scheme start equations soFar ⊆ storesHeld d scheme larger equations more := by
  intro equations
  induction equations with
  | nil => intro soFar more _ grows; exact grows
  | cons equation rest ih =>
      intro soFar more constant grows
      apply ih _ _ fun e member => constant e (List.mem_cons_of_mem _ member)
      apply storeHeld_mono _ grows
      exact Node.yields_mono (view_subset below grows) _ (constant equation List.mem_cons_self)

theorem passHeld_mono (d : String) (scheme : Scheme) {equations : List Equation}
    (constant : ConstantSubtrahends equations) : Monotone (passHeld d scheme equations) :=
  fun _ _ grows => storesHeld_mono d scheme grows equations _ _ constant grows

/-- A set that no equation leads out of is never left. -/
theorem storesHeld_subset {d : String} (scheme : Scheme) {start bound : Set String}
    (below : start ⊆ bound) : ∀ (equations : List Equation) (soFar : Set String),
      ConstantSubtrahends equations →
      (∀ equation ∈ equations, equation.value.Yields d bound → equation.target ∈ bound) →
        soFar ⊆ bound → storesHeld d scheme start equations soFar ⊆ bound := by
  intro equations
  induction equations with
  | nil => intro soFar _ _ inside; exact inside
  | cons equation rest ih =>
      intro soFar constant led inside
      apply ih _ (fun e member => constant e (List.mem_cons_of_mem _ member))
        (fun e member => led e (List.mem_cons_of_mem _ member))
      intro name member
      by_cases here : name = equation.target
      · subst here
        rw [mem_storeHeld_self] at member
        apply led equation List.mem_cons_self
        have viewed : scheme.view start soFar ⊆ bound :=
          scheme.view_of_both (p := (· ⊆ bound)) below inside
        exact Node.yields_mono viewed _ (constant equation List.mem_cons_self) member
      · rw [mem_storeHeld_ne _ _ here] at member
        exact inside member

theorem passHeld_subset {d : String} (scheme : Scheme) {equations : List Equation}
    {held bound : Set String} (constant : ConstantSubtrahends equations)
    (led : ∀ equation ∈ equations, equation.value.Yields d bound → equation.target ∈ bound)
    (inside : held ⊆ bound) : passHeld d scheme equations held ⊆ bound :=
  storesHeld_subset scheme inside equations held constant led inside

/-! ## Passes that change nothing -/

theorem mem_storesHeld_of_notMem (d : String) (scheme : Scheme) (start : Set String)
    (name : String) : ∀ (equations : List Equation) (soFar : Set String),
      name ∉ targets equations →
        (name ∈ storesHeld d scheme start equations soFar ↔ name ∈ soFar) := by
  intro equations
  induction equations with
  | nil => intro soFar _; exact Iff.rfl
  | cons equation rest ih =>
      intro soFar absent
      rw [targets, List.map_cons, List.mem_cons, not_or] at absent
      rw [storesHeld, ih _ absent.2, mem_storeHeld_ne _ _ absent.1]

/-- What a target is given that is not stored again is still there at the end of the pass. -/
theorem mem_storesHeld_target (d : String) (scheme : Scheme) (start : Set String)
    {equation : Equation} {rest : List Equation} (once : equation.target ∉ targets rest)
    (soFar : Set String) :
    equation.target ∈ storesHeld d scheme start (equation :: rest) soFar ↔
      equation.value.Yields d (scheme.view start soFar) := by
  rw [storesHeld, mem_storesHeld_of_notMem d scheme start _ rest _ once, mem_storeHeld_self]

/-- Each target is stored once, so the value stored to it is still there at the end of the pass.  If
the pass as a whole changes nothing, none of its stores does, and every equation has read the same. -/
theorem mem_iff_of_passHeld_eq {d : String} {scheme : Scheme} {held : Set String} :
    ∀ equations : List Equation, (targets equations).Nodup →
      passHeld d scheme equations held = held →
        ∀ equation ∈ equations, equation.target ∈ held ↔ equation.value.Yields d held := by
  intro equations
  induction equations with
  | nil => intro _ _ equation member; simp at member
  | cons first rest ih =>
      intro distinct fixed
      rw [targets, List.map_cons, List.nodup_cons] at distinct
      have last := mem_storesHeld_target d scheme held distinct.1 held
      rw [passHeld] at fixed
      rw [fixed, Scheme.view_self] at last
      rw [storesHeld, Scheme.view_self, storeHeld_of_iff last.symm] at fixed
      intro equation member
      rcases List.mem_cons.mp member with rfl | later
      · exact last
      · exact ih distinct.2 fixed equation later

end Reaching.Solver
