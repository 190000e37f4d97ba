import Mathlib
import Reaching.Node.Outline
import Reaching.Node.Simplify
import Reaching.Proofs.Lexing.Cut
import Reaching.Proofs.Node.Parts

/-! # Trees from their outlines

An outline has one line for each node, a node before its parts (`entries_eq`), and a walk with a stack
of what is still to be shown writes just these lines (`walk_eq`).

A line shows the depth of its node by its margin, if a level has one, and behind that the kind of the
node and its name (`line_inj`).  The parts of a node are the entries behind it that stand one level
deeper, up to the first that does not stand deeper than the node, so the lines of a row of trees and
what follows them, which is not as deep, determine the trees (`eq_of_marks`).

Main fact: `outline_determines_tree`. -/
set_option autoImplicit false

namespace Reaching.Node

open Source (Stops takeWhile_of_stops)

def lexeme? : Node → Option String
  | .dataPoint name => some name
  | .definition name => some name
  | _ => none

def nameText (node : Node) : String :=
  match node.lexeme? with
  | some name => " " ++ name
  | none => ""

namespace Outline

/-! ## Entries -/

theorem entriesOf_eq_flatMap (depth : Nat) (items : List Node) :
    entriesOf depth items = items.flatMap (entries depth) := by
  induction items with
  | nil => rfl
  | cons item rest ih => rw [entriesOf, ih, List.flatMap_cons]

theorem entries_eq (depth : Nat) (node : Node) :
    entries depth node = (depth, node) :: node.children.flatMap (entries (depth + 1)) := by
  cases node <;> simp [entries, children, entriesOf_eq_flatMap]

theorem label_eq (node : Node) : label node = node.kind ++ node.nameText := by
  cases node with
  | dataPoint name | definition name =>
      rw [label, kind, nameText, lexeme?, ← String.append_assoc]
      rfl
  | _ => exact String.append_empty.symm

/-! ## The walk -/

def walk (indent : Int) : List (Node × Nat) → List String → List String
  | [], lines => lines
  | (node, depth) :: stack, lines =>
    let text := margin indent depth ++ node.kind ++ node.nameText
    walk indent (pushAll (node.children.map (·, depth + 1)) stack) (lines ++ [text])
termination_by stack => (stack.map fun entry => sizeOf entry.1).sum
decreasing_by
  have := node.sum_sizeOf_children_lt
  rw [pushAll_eq_append, List.map_append, List.sum_append, List.map_cons, List.sum_cons, List.map_map]
  exact Nat.add_lt_add_right this _

theorem walk_eq (indent : Int) (stack : List (Node × Nat)) (lines : List String) :
    walk indent stack lines =
      lines ++ stack.flatMap fun entry => (entries entry.2 entry.1).map (line indent) := by
  fun_induction walk indent stack lines with
  | case1 lines => simp
  | case2 node depth stack lines text ih =>
      have written : text = line indent (depth, node) := by
        rw [line, label_eq, ← String.append_assoc]
      rw [ih, pushAll_eq_append, List.flatMap_append, List.flatMap_cons, entries_eq, List.map_cons,
        List.map_flatMap, List.flatMap_map, written]
      simp

/-! ## Lines -/

theorem kind_oneWord (node : Node) :
    node.kind.toList ≠ [] ∧ ' ' ∉ node.kind.toList ∧ '\n' ∉ node.kind.toList := by
  cases node <;> simp [kind]

theorem stops_nameText (node : Node) : Stops (· ≠ ' ') node.nameText.toList := by
  cases node with
  | dataPoint name | definition name =>
      rw [nameText, lexeme?, String.toList_append]
      rintro c ⟨⟩
      rfl
  | _ =>
      intro c first
      cases first

def shown (node : Node) : List Char := node.kind.toList ++ node.nameText.toList

theorem takeWhile_shown (node : Node) : (shown node).takeWhile (· ≠ ' ') = node.kind.toList :=
  takeWhile_of_stops (fun _ member => decide_eq_true fun blank =>
    (kind_oneWord node).2.1 (blank ▸ member)) (stops_nameText node)

theorem stops_shown (node : Node) : Stops (· = ' ') (shown node) := by
  obtain ⟨c, more, starts⟩ := List.exists_cons_of_ne_nil (kind_oneWord node).1
  rw [shown, starts]
  rintro first ⟨⟩
  exact decide_eq_false fun blank => (kind_oneWord node).2.1 (starts ▸ blank ▸ List.mem_cons_self)

theorem eq_of_shown_children {one other : Node} (same : shown one = shown other)
    (parts : one.children = other.children) : one = other := by
  have kinds : one.kind.toList = other.kind.toList := by
    rw [← takeWhile_shown, ← takeWhile_shown, same]
  have names : one.nameText = other.nameText := by
    rw [shown, shown, kinds] at same
    exact String.toList_inj.mp (List.append_cancel_left same)
  replace kinds := String.toList_inj.mp kinds
  cases one <;> cases other <;> simp_all [kind, children, nameText, lexeme?]

theorem toList_line (indent : Int) (depth : Nat) (node : Node) :
    (line indent (depth, node)).toList =
      List.replicate (depth * indent).toNat ' ' ++ shown node := by
  rw [line, label_eq, margin, String.toList_append, String.toList_append, String.toList_ofList, shown]

theorem takeWhile_margin (width : Nat) (node : Node) :
    (List.replicate width ' ' ++ shown node).takeWhile (· = ' ') = List.replicate width ' ' :=
  takeWhile_of_stops (by simp) (stops_shown node)

theorem eq_of_margins {indent : Int} (wide : 1 ≤ indent) {depth level : Nat}
    (same : (depth * indent).toNat = (level * indent).toNat) : depth = level := by
  have natural (n : Nat) : ((n * indent).toNat : Int) = n * indent :=
    Int.toNat_of_nonneg (Int.mul_nonneg (Int.natCast_nonneg n) (by omega))
  have products : (depth : Int) * indent = level * indent := by rw [← natural, same, natural]
  exact Int.ofNat.inj (Int.eq_of_mul_eq_mul_right (by omega) products)

/-- If a level has a margin, a line tells how deep its node stands and how it is shown. -/
theorem line_inj {indent : Int} (wide : 1 ≤ indent) {depth level : Nat} {one other : Node}
    (same : line indent (depth, one) = line indent (level, other)) :
    depth = level ∧ shown one = shown other := by
  have chars := congrArg String.toList same
  rw [toList_line, toList_line] at chars
  have margins := congrArg (List.takeWhile (· = ' ')) chars
  rw [takeWhile_margin, takeWhile_margin] at margins
  have widths := List.replicate_inj.mp margins
  constructor
  · exact eq_of_margins wide widths.1
  · rw [margins] at chars
    exact List.append_cancel_left chars

/-! ## Depths -/

/-- What a line tells of its node. -/
abbrev Mark := Nat × List Char

def mark (entry : Nat × Node) : Mark := (entry.1, shown entry.2)

def marks (depth : Nat) (items : List Node) : List Mark :=
  (items.flatMap (entries depth)).map mark

theorem marks_cons (depth : Nat) (item : Node) (rest : List Node) :
    marks depth (item :: rest) =
      (depth, shown item) :: (marks (depth + 1) item.children ++ marks depth rest) := by
  rw [marks, List.flatMap_cons, entries_eq, List.map_append, List.map_cons, List.cons_append]
  rfl

def Shallow (depth : Nat) (rest : List Mark) : Prop := ∀ mark ∈ rest.head?, mark.1 < depth

theorem Shallow.marks_append {depth : Nat} {rest : List Mark} (shallow : Shallow depth rest)
    (items : List Node) : Shallow (depth + 1) (marks depth items ++ rest) := by
  cases items with
  | nil => exact fun mark first => Nat.lt_succ_of_lt (shallow mark first)
  | cons item others =>
      rw [marks_cons]
      rintro mark ⟨⟩
      exact Nat.lt_succ_self depth

-- The parts of the first node and the nodes behind it are both rows of trees, so one statement on
-- rows is enough.
theorem eq_of_marks : ∀ (items others : List Node) (depth : Nat) (rest more : List Mark),
    Shallow depth rest → Shallow depth more →
      marks depth items ++ rest = marks depth others ++ more → items = others ∧ rest = more
  | [], [], _, _, _, _, _, same => ⟨rfl, same⟩
  | [], other :: others, depth, rest, more, shallow, _, same => by
      rw [marks_cons] at same
      have first := shallow (depth, shown other) (by rw [show rest = _ from same]; rfl)
      exact absurd first (Nat.lt_irrefl depth)
  | item :: items, [], depth, rest, more, _, shallow, same => by
      rw [marks_cons] at same
      have first := shallow (depth, shown item) (by rw [show more = _ from same.symm]; rfl)
      exact absurd first (Nat.lt_irrefl depth)
  | item :: items, other :: others, depth, rest, more, shallow, low, same => by
      rw [marks_cons, marks_cons] at same
      simp only [List.cons_append, List.append_assoc, List.cons.injEq, Prod.mk.injEq, true_and] at same
      obtain ⟨parts, later⟩ := eq_of_marks item.children other.children (depth + 1) _ _
        (shallow.marks_append items) (low.marks_append others) same.2
      obtain ⟨rfl, ends⟩ := eq_of_marks items others depth rest more shallow low later
      rw [eq_of_shown_children same.1 parts]
      exact ⟨rfl, ends⟩
termination_by items => (items.map sizeOf).sum
decreasing_by
  · have := item.sum_sizeOf_children_lt
    rw [List.map_cons, List.sum_cons]
    omega
  · have := item.sizeOf_pos
    rw [List.map_cons, List.sum_cons]
    omega

/-! ## Texts -/

def OneLine (node : Node) : Prop :=
  ∀ entry ∈ entries 0 node, ∀ name ∈ entry.2.lexeme?, '\n' ∉ name.toList

instance (node : Node) : Decidable (OneLine node) :=
  inferInstanceAs (Decidable (∀ entry ∈ entries 0 node, ∀ name ∈ entry.2.lexeme?, '\n' ∉ name.toList))

theorem oneLine_line {node : Node} (oneLine : OneLine node) (indent : Int) :
    ∀ entry ∈ entries 0 node, '\n' ∉ (line indent entry).toList := by
  rintro ⟨depth, part⟩ member broken
  rw [toList_line, List.mem_append, shown, List.mem_append] at broken
  rcases broken with margin | kind | name
  · exact absurd (List.eq_of_mem_replicate margin) (by decide)
  · exact (kind_oneWord part).2.2 kind
  · cases found : part.lexeme? with
    | none =>
        rw [nameText, found] at name
        exact List.not_mem_nil name
    | some lexeme =>
        rw [nameText, found, String.toList_append, List.mem_append] at name
        rcases name with blank | inside
        · exact absurd blank (by decide)
        · exact oneLine _ member lexeme found inside

theorem splitOn_intercalate {lines : List String} (some : lines ≠ [])
    (oneLine : ∀ line ∈ lines, '\n' ∉ line.toList) :
    ("\n".intercalate lines).toList.splitOn '\n' = lines.map String.toList := by
  rw [String.toList_intercalate]
  exact List.splitOn_intercalate '\n' (List.forall_mem_map.mpr oneLine) (by simpa using some)

/-- Lines that are joined can be told apart again. -/
theorem intercalate_inj {lines others : List String} (some : lines ≠ []) (also : others ≠ [])
    (oneLine : ∀ line ∈ lines, '\n' ∉ line.toList) (single : ∀ line ∈ others, '\n' ∉ line.toList)
    (same : "\n".intercalate lines = "\n".intercalate others) : lines = others := by
  have chars := splitOn_intercalate some oneLine
  rw [same, splitOn_intercalate also single] at chars
  exact List.map_injective_iff.mpr (fun _ _ => String.toList_inj.mp) chars.symm

theorem eq_of_outline {indent : Int} (wide : 1 ≤ indent) {one other : Node} (oneLine : OneLine one)
    (single : OneLine other) (same : outline indent one = outline indent other) : one = other := by
  have lines : (entries 0 one).map (line indent) = (entries 0 other).map (line indent) := by
    refine intercalate_inj ?_ ?_ ?_ ?_ same
    · rw [entries_eq]
      exact List.cons_ne_nil _ _
    · rw [entries_eq]
      exact List.cons_ne_nil _ _
    · exact List.forall_mem_map.mpr (oneLine_line oneLine indent)
    · exact List.forall_mem_map.mpr (oneLine_line single indent)
  have told : (entries 0 one).map mark = (entries 0 other).map mark := by
    rw [← List.forall₂_eq_eq_eq, List.forall₂_map_left_iff, List.forall₂_map_right_iff] at lines ⊢
    refine lines.imp fun entry there equal => ?_
    exact Prod.ext_iff.mpr (line_inj wide equal)
  have rows : marks 0 [one] ++ [] = marks 0 [other] ++ [] := by
    simpa [marks] using told
  exact List.singleton_inj.mp (eq_of_marks [one] [other] 0 [] [] nofun nofun rows).1

end Outline

theorem outline_determines_tree :
    (∀ (indent : Int) (node : Node),
      node.outline indent = "\n".intercalate (Outline.walk indent [(node, 0)] []) ∧
      Outline.walk indent [(node, 0)] [] = (Outline.entries 0 node).map (Outline.line indent)) ∧
    (∀ (depth : Nat) (node : Node), Outline.entries depth node =
      (depth, node) :: node.children.flatMap (Outline.entries (depth + 1))) ∧
    (∀ (indent : Int) (depth : Nat) (node : Node), Outline.line indent (depth, node) =
      String.ofList (List.replicate (max 0 (depth * indent)).toNat ' ') ++ node.kind ++ node.nameText) ∧
    ∀ (indent : Int), 1 ≤ indent → ∀ one other : Node, Outline.OneLine one → Outline.OneLine other →
      one.outline indent = other.outline indent → one = other := by
  have walked (indent : Int) (node : Node) : Outline.walk indent [(node, 0)] [] =
      (Outline.entries 0 node).map (Outline.line indent) := by
    rw [Outline.walk_eq]
    simp
  refine ⟨fun indent node => ⟨?_, walked indent node⟩, Outline.entries_eq, ?_, ?_⟩
  · rw [walked, outline]
  · intro indent depth node
    have positive : (max 0 (depth * indent)).toNat = (depth * indent).toNat := by omega
    rw [Outline.line, Outline.label_eq, Outline.margin, ← String.append_assoc, positive]
  · exact fun indent wide one other => Outline.eq_of_outline wide

def boxed : Node :=
  .root (.equations [.equation (.dataPoint "L") (.body (.difference (.dataPoint "L  Set")
    (.set [.body (.definition "d"), .definition ""])))])

def unboxed : Node :=
  .equations [.equation (.dataPoint "L") (.difference (.dataPoint "L  Set")
    (.set [.body (.definition "d"), .definition ""]))]

theorem outline_determines_tree_unboxed :
    Outline.OneLine boxed.simplify ∧ Outline.OneLine unboxed ∧
      boxed.simplify.outline 2 = unboxed.outline 2 ∧ boxed.simplify = unboxed ∧
      (Node.set [.set [unboxed]]).outline 1 ≠ (Node.set [.set [], unboxed]).outline 1 := by
  obtain ⟨_, _, _, determined⟩ := outline_determines_tree
  have single : Outline.OneLine boxed.simplify := by decide +kernel
  have oneLine : Outline.OneLine unboxed := by decide +kernel
  have same : boxed.simplify.outline 2 = unboxed.outline 2 := by decide +kernel
  refine ⟨single, oneLine, same, determined 2 (by decide) _ _ single oneLine same, fun alike => ?_⟩
  cases determined 1 (by decide) (.set [.set [unboxed]]) (.set [.set [], unboxed]) (by decide +kernel)
    (by decide +kernel) alike

end Reaching.Node
