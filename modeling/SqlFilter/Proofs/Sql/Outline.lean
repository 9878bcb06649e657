import SqlFilter.Proofs.Sql.Tree

/-!
# Outlines

Rendering looks at a value only to see whether it is null and how many operands it has. An outline keeps just that, and
the text around the operands is a function of the outline.
-/

set_option autoImplicit false

namespace SqlFilter.Sql

-- What is left of a tree when its conditions keep only a view of their left-hand side, their operator, whether they
-- test for null and how many operands they have.
inductive Outline (α : Type) where
  | leaf (left : α) (op : Operator) (isNull : Bool) (count : Nat)
  | group (logic : Logic) (children : List (Outline α))

variable {F α : Type}

mutual
def outline (view : Leaf F → Option String → α) (fieldPrefix : Option String) : Node F → Outline α
  | .leaf leaf => .leaf (view leaf fieldPrefix) leaf.op leaf.value.isNull leaf.operands.length
  | .group logic own nodes => .group logic (outlines view own nodes)
def outlines (view : Leaf F → Option String → α) (fieldPrefix : Option String) : List (Node F) → List (Outline α)
  | [] => []
  | node :: nodes => outline view fieldPrefix node :: outlines view fieldPrefix nodes
end

-- An operand without its content.
def hole : Piece :=
  .operand false .null

namespace Outline

mutual
def fragment (write : α → String) (width depth : Nat) : Outline α → Fragment
  | .leaf left op isNull count =>
      .left (write left) :: .text " " :: (.text (opening op isNull) ::
        [Piece.text (glue op)].intercalate (List.replicate count [hole]) ++ ending op isNull)
  | .group logic children =>
      .text ("(" ++ indent (depth + 1) width) ::
        [Piece.text (separator logic (depth + 1) width)].intercalate (fragments write width (depth + 1) children) ++
        [.text (closing (depth + 1) width ++ ")")]
def fragments (write : α → String) (width depth : Nat) : List (Outline α) → List Fragment
  | [] => []
  | child :: children => fragment write width depth child :: fragments write width depth children
end

end Outline

-- A piece with its operand taken out and its left-hand side rewritten.
def Piece.strip (rewrite : String → String) : Piece → Piece
  | .text s => .text s
  | .left s => .left (rewrite s)
  | .operand _ _ => hole

namespace Fragment

def strip (rewrite : String → String) (fragment : Fragment) : Fragment :=
  fragment.map (Piece.strip rewrite)

theorem strip_intercalate (rewrite : String → String) (separator : String) (fragments : List Fragment) :
    strip rewrite ([Piece.text separator].intercalate fragments) =
      [Piece.text separator].intercalate (fragments.map (strip rewrite)) :=
  map_intercalate (Piece.strip rewrite) separator rfl fragments

theorem chars_strip (fragment : Fragment) (number : UInt64) :
    (strip id fragment).chars number = fragment.chars number := by
  induction fragment generalizing number with
  | nil => rfl
  | cons piece rest ih =>
      simp only [strip] at ih
      cases piece <;> simp [strip, Piece.strip, hole, chars, ih]

theorem gaps_strip (fragment : Fragment) : (fragment.strip id).gaps = fragment.gaps := by
  induction fragment with
  | nil => rfl
  | cons piece rest ih =>
      simp only [strip] at ih
      cases piece <;> simp [strip, Piece.strip, hole, gaps, ih]

theorem operand_count_strip (fragment : Fragment) :
    (fragment.strip id).operands.length = fragment.operands.length := by
  have gaps := gaps_length (fragment.strip id)
  rw [gaps_strip, gaps_length] at gaps
  omega

end Fragment

theorem condition_strip (rewrite : String → String) (leaf : Leaf F) :
    (conditionFragment leaf).strip rewrite =
      .text (opening leaf.op leaf.value.isNull) ::
        [Piece.text (glue leaf.op)].intercalate (List.replicate leaf.operands.length [hole]) ++
        ending leaf.op leaf.value.isNull := by
  have operands : (leaf.operands.map fun value => [Piece.operand (isQuoted leaf) value]).map (Fragment.strip rewrite) =
      List.replicate leaf.operands.length [hole] := by
    induction leaf.operands with
    | nil => rfl
    | cons value others ih =>
        rw [List.map_cons, List.map_cons, ih]
        rfl
  have closed : (ending leaf.op leaf.value.isNull).strip rewrite = ending leaf.op leaf.value.isNull := by
    unfold ending
    split <;> rfl
  have between := Fragment.strip_intercalate rewrite (glue leaf.op)
    (leaf.operands.map fun value => [Piece.operand (isQuoted leaf) value])
  rw [operands] at between
  simp only [Fragment.strip] at between closed ⊢
  rw [conditionFragment, List.map_append, List.map_cons, between, closed]
  rfl

variable [FieldName F]

-- The fragment of a tree without its operands is that of its outline, so trees of one outline differ in operands only.
mutual
theorem node_strip (transformer : Option (Transformer F)) (rewrite : String → String)
    (view : Leaf F → Option String → α) (write : α → String)
    (agree : ∀ leaf fieldPrefix, rewrite (left transformer leaf fieldPrefix) = write (view leaf fieldPrefix))
    (width depth : Nat) (fieldPrefix : Option String) (node : Node F) :
    (nodeFragment transformer width depth fieldPrefix node).strip rewrite =
      (outline view fieldPrefix node).fragment write width depth := by
  cases node with
  | leaf leaf =>
      have right := condition_strip rewrite leaf
      simp only [Fragment.strip] at right ⊢
      rw [nodeFragment, List.map_cons, List.map_cons, right, outline, Outline.fragment, ← agree]
      rfl
  | group logic own nodes =>
      have children := Fragment.strip_intercalate rewrite (separator logic (depth + 1) width)
        (nodeFragments transformer width (depth + 1) own nodes)
      rw [nodes_strip transformer rewrite view write agree width (depth + 1) own nodes] at children
      simp only [Fragment.strip] at children ⊢
      rw [nodeFragment, List.map_append, List.map_cons, children, outline, Outline.fragment]
      rfl
theorem nodes_strip (transformer : Option (Transformer F)) (rewrite : String → String)
    (view : Leaf F → Option String → α) (write : α → String)
    (agree : ∀ leaf fieldPrefix, rewrite (left transformer leaf fieldPrefix) = write (view leaf fieldPrefix))
    (width depth : Nat) (fieldPrefix : Option String) (nodes : List (Node F)) :
    (nodeFragments transformer width depth fieldPrefix nodes).map (Fragment.strip rewrite) =
      Outline.fragments write width depth (outlines view fieldPrefix nodes) := by
  cases nodes with
  | nil => rfl
  | cons node nodes =>
      rw [nodeFragments, List.map_cons, node_strip transformer rewrite view write agree width depth fieldPrefix node,
        nodes_strip transformer rewrite view write agree width depth fieldPrefix nodes, outlines, Outline.fragments]
end

end SqlFilter.Sql
