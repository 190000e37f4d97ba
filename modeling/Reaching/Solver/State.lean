import Reaching.Solver.PointSet
/-!
States of a run: the set of each data point, in the order in which the data points were first
stored. Storing to a name that is present keeps its place, so a pass over equations whose targets
are all present keeps names and order.

Main facts: `get?_put_self` and `get?_put_ne`.
-/
set_option autoImplicit false

namespace Reaching.Solver

structure State where
  entries : List (String × PointSet)
  nodup : (entries.map Prod.fst).Nodup
  deriving DecidableEq

namespace State

def empty : State := ⟨[], .nil⟩

instance : EmptyCollection State := ⟨empty⟩

instance : Inhabited State := ⟨empty⟩

def names (state : State) : List String := state.entries.map Prod.fst

def get? (state : State) (name : String) : Option PointSet := state.entries.lookup name

/-- Replaces the set of a name in place, or adds the name at the end. -/
def assign (name : String) (points : PointSet) :
    List (String × PointSet) → List (String × PointSet)
  | [] => [(name, points)]
  | (head, old) :: rest =>
    if head = name then (head, points) :: rest else (head, old) :: assign name points rest

theorem mem_names_assign (name other : String) (points : PointSet)
    (entries : List (String × PointSet)) :
    other ∈ (assign name points entries).map Prod.fst ↔
      other = name ∨ other ∈ entries.map Prod.fst := by
  induction entries with
  | nil => simp [assign]
  | cons entry rest ih =>
    obtain ⟨head, old⟩ := entry
    rw [assign]
    split
    · rename_i same
      subst same
      simp
    · simp only [List.map_cons, List.mem_cons, ih]
      exact or_left_comm

theorem nodup_assign (name : String) (points : PointSet) (entries : List (String × PointSet))
    (distinct : (entries.map Prod.fst).Nodup) :
    ((assign name points entries).map Prod.fst).Nodup := by
  induction entries with
  | nil => simp [assign]
  | cons entry rest ih =>
    obtain ⟨head, old⟩ := entry
    rw [List.map_cons, List.nodup_cons] at distinct
    rw [assign]
    split
    · exact List.nodup_cons.mpr distinct
    · rename_i different
      refine List.nodup_cons.mpr ⟨?_, ih distinct.2⟩
      intro member
      rcases (mem_names_assign name head points rest).mp member with same | later
      · exact different same
      · exact distinct.1 later

def put (state : State) (name : String) (points : PointSet) : State :=
  ⟨assign name points state.entries, nodup_assign name points state.entries state.nodup⟩

def ofList (entries : List (String × PointSet)) : State :=
  entries.foldl (fun state entry => state.put entry.1 entry.2) ∅

theorem lookup_assign_self (name : String) (points : PointSet)
    (entries : List (String × PointSet)) :
    (assign name points entries).lookup name = some points := by
  induction entries with
  | nil => simp [assign]
  | cons entry rest ih =>
    obtain ⟨head, old⟩ := entry
    rw [assign]
    split
    · rename_i same
      simp [same]
    · rename_i different
      have unequal : (name == head) = false := beq_false_of_ne (Ne.symm different)
      rw [List.lookup_cons, unequal, ih]

theorem lookup_assign_ne (name other : String) (points : PointSet) (different : other ≠ name)
    (entries : List (String × PointSet)) :
    (assign name points entries).lookup other = entries.lookup other := by
  have unequal : (other == name) = false := beq_false_of_ne different
  induction entries with
  | nil => rw [assign, List.lookup_cons, unequal]
  | cons entry rest ih =>
    obtain ⟨head, old⟩ := entry
    rw [assign]
    split
    · rename_i same
      subst same
      rw [List.lookup_cons, List.lookup_cons, unequal]
    · rw [List.lookup_cons, List.lookup_cons, ih]

theorem get?_put_self (state : State) (name : String) (points : PointSet) :
    (state.put name points).get? name = some points :=
  lookup_assign_self name points state.entries

theorem get?_put_ne (state : State) (name other : String) (points : PointSet)
    (different : other ≠ name) : (state.put name points).get? other = state.get? other :=
  lookup_assign_ne name other points different state.entries

end State

end Reaching.Solver
