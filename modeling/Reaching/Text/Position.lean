/-!
Places in a text: a line and a column, both counted from one, the column in characters. A newline
ends its line, so the next character stands at column one of the following line; every other
character moves the place one column on.
-/
set_option autoImplicit false

namespace Reaching.Text

structure Position where
  line : Nat
  column : Nat
  deriving DecidableEq, Repr, Inhabited

namespace Position

def start : Position := ⟨1, 1⟩

/-- Gives the place after a character that stands here. -/
def next (place : Position) (c : Char) : Position :=
  if c = '\n' then ⟨place.line + 1, 1⟩ else ⟨place.line, place.column + 1⟩

/-- Gives the place after a run of characters that starts here. -/
def after (place : Position) (cs : List Char) : Position :=
  cs.foldl next place

@[simp] theorem after_nil (place : Position) : place.after [] = place := rfl

@[simp] theorem after_cons (place : Position) (c : Char) (cs : List Char) :
    place.after (c :: cs) = (place.next c).after cs := rfl

theorem after_append (place : Position) (before rest : List Char) :
    place.after (before ++ rest) = (place.after before).after rest :=
  List.foldl_append

end Position

end Reaching.Text
