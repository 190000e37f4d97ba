/-!
Finite sets of names, kept as lists in strictly ascending order, so that two sets with the same
members are equal.

Main facts: `mem_union`, `mem_diff`, `mem_ofList` and `ext`.
-/
set_option autoImplicit false

namespace Reaching.Solver

structure PointSet where
  names : List String
  ascending : names.Pairwise (· < ·)
  deriving DecidableEq

namespace PointSet

instance : Membership String PointSet := ⟨fun points name => name ∈ points.names⟩

instance (name : String) (points : PointSet) : Decidable (name ∈ points) :=
  inferInstanceAs (Decidable (name ∈ points.names))

theorem mem_def (name : String) (points : PointSet) : name ∈ points ↔ name ∈ points.names :=
  Iff.rfl

/-- Places a name among ascending names, once. -/
def place (name : String) : List String → List String
  | [] => [name]
  | head :: rest =>
    if name < head then name :: head :: rest
    else if name = head then head :: rest
    else head :: place name rest

theorem mem_place (name other : String) (names : List String) :
    other ∈ place name names ↔ other = name ∨ other ∈ names := by
  induction names with
  | nil => simp [place]
  | cons head rest ih =>
    rw [place]
    split
    · simp
    · split
      · rename_i same
        subst same
        simp
      · simp only [List.mem_cons, ih]
        exact or_left_comm

theorem ascending_place (name : String) (names : List String) (sorted : names.Pairwise (· < ·)) :
    (place name names).Pairwise (· < ·) := by
  induction names with
  | nil => simp [place]
  | cons head rest ih =>
    rw [List.pairwise_cons] at sorted
    rw [place]
    split
    · rename_i below
      refine List.pairwise_cons.mpr ⟨?_, List.pairwise_cons.mpr sorted⟩
      intro other member
      rcases List.mem_cons.mp member with rfl | later
      · exact below
      · exact String.lt_trans below (sorted.1 other later)
    · split
      · exact List.pairwise_cons.mpr sorted
      · rename_i notBelow different
        refine List.pairwise_cons.mpr ⟨?_, ih sorted.2⟩
        intro other member
        rcases (mem_place name other rest).mp member with rfl | later
        · exact Decidable.byContradiction fun notAbove =>
            different (String.le_antisymm (String.not_lt.mp notAbove) (String.not_lt.mp notBelow))
        · exact sorted.1 other later

def empty : PointSet := ⟨[], .nil⟩

instance : EmptyCollection PointSet := ⟨empty⟩

instance : Inhabited PointSet := ⟨empty⟩

def insert (points : PointSet) (name : String) : PointSet :=
  ⟨place name points.names, ascending_place name points.names points.ascending⟩

def ofList (names : List String) : PointSet :=
  names.foldl insert ∅

def singleton (name : String) : PointSet := ⟨[name], List.pairwise_singleton _ _⟩

def union (left right : PointSet) : PointSet :=
  right.names.foldl insert left

def diff (left right : PointSet) : PointSet :=
  ⟨left.names.filter (· ∉ right.names), left.ascending.filter _⟩

instance : Union PointSet := ⟨union⟩

instance : SDiff PointSet := ⟨diff⟩

instance : HasSubset PointSet := ⟨fun left right => ∀ name, name ∈ left → name ∈ right⟩

theorem not_mem_empty (name : String) : name ∉ (∅ : PointSet) := nofun

theorem mem_insert (name other : String) (points : PointSet) :
    other ∈ points.insert name ↔ other = name ∨ other ∈ points :=
  mem_place name other points.names

theorem mem_foldl_insert (other : String) (names : List String) (points : PointSet) :
    other ∈ names.foldl insert points ↔ other ∈ points ∨ other ∈ names := by
  induction names generalizing points with
  | nil => simp
  | cons head rest ih =>
    simp only [List.foldl_cons, ih, mem_insert, List.mem_cons]
    constructor
    · rintro ((h | h) | h) <;> simp [h]
    · rintro (h | h | h) <;> simp [h]

theorem mem_ofList (other : String) (names : List String) : other ∈ ofList names ↔ other ∈ names := by
  simp [ofList, mem_foldl_insert, not_mem_empty]

theorem mem_singleton (name other : String) : other ∈ singleton name ↔ other = name := by
  simp [mem_def, singleton]

theorem mem_union (name : String) (left right : PointSet) :
    name ∈ left ∪ right ↔ name ∈ left ∨ name ∈ right :=
  mem_foldl_insert name right.names left

theorem mem_diff (name : String) (left right : PointSet) :
    name ∈ left \ right ↔ name ∈ left ∧ name ∉ right := by
  change name ∈ left.names.filter _ ↔ _
  simp [mem_def]

/-- Sets with the same members are equal. -/
theorem ext {left right : PointSet} (same : ∀ name, name ∈ left ↔ name ∈ right) : left = right := by
  obtain ⟨names, sorted⟩ := left
  obtain ⟨others, ordered⟩ := right
  congr 1
  simp only [mem_def] at same
  induction names generalizing others with
  | nil =>
    cases others with
    | nil => rfl
    | cons head rest => exact absurd ((same head).mpr List.mem_cons_self) (by simp)
  | cons head rest ih =>
    cases others with
    | nil => exact absurd ((same head).mp List.mem_cons_self) (by simp)
    | cons first more =>
      rw [List.pairwise_cons] at sorted ordered
      have heads : head = first := by
        rcases List.mem_cons.mp ((same head).mp List.mem_cons_self) with h | h
        · exact h
        · rcases List.mem_cons.mp ((same first).mpr List.mem_cons_self) with h' | h'
          · exact h'.symm
          · exact absurd (ordered.1 head h) (String.lt_asymm (sorted.1 first h'))
      subst heads
      congr 1
      refine ih sorted.2 more ordered.2 fun name => ?_
      have both := same name
      simp only [List.mem_cons] at both
      constructor
      · intro member
        rcases both.mp (.inr member) with rfl | h
        · exact absurd (sorted.1 name member) (String.lt_irrefl name)
        · exact h
      · intro member
        rcases both.mpr (.inr member) with rfl | h
        · exact absurd (ordered.1 name member) (String.lt_irrefl name)
        · exact h

end PointSet

end Reaching.Solver
