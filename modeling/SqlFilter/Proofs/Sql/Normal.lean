import Mathlib.Data.List.Forall2
import SqlFilter.Proofs.Sql.Outline

/-!
# Trees that cannot be told apart

`normal` brings a tree to the form that its SQL with placeholders still shows. Taken apart into a shape and the operands
it is filled with, a normal tree is found again from both.
-/

set_option autoImplicit false

namespace SqlFilter

theorem Value.equal_items_iff (xs ys : List Value) :
    equalItems xs ys = true ↔ List.Forall₂ (fun x y => (x == y) = true) xs ys := by
  induction xs generalizing ys with
  | nil => cases ys <;> simp [equalItems]
  | cons x xs ih =>
      cases ys with
      | nil => simp [equalItems]
      | cons y ys =>
          rw [equalItems, Bool.and_eq_true, ih, List.forall₂_cons]
          exact Iff.rfl

theorem Value.items_beq_iff (xs ys : List Value) :
    (xs == ys) = true ↔ List.Forall₂ (fun x y => (x == y) = true) xs ys := by
  induction xs generalizing ys with
  | nil => cases ys <;> simp
  | cons x xs ih => cases ys <;> simp [ih]

namespace Sql

-- A test for null shows no more of its operator than whether it is equality.
def shownOperator (op : Operator) (isNull : Bool) : Operator :=
  if isNull then if op = .eq then .eq else .ne else op

variable {F : Type}

theorem normal_operands (leaf : Leaf F) (field : String) :
    (⟨field, shownOperator leaf.op leaf.value.isNull, leaf.value, none⟩ : Leaf String).operands = leaf.operands := by
  obtain ⟨_, op, value, _⟩ := leaf
  cases value <;> simp [Leaf.operands, Value.isNull, shownOperator]

variable [FieldName F]

-- The tree with what its SQL cannot show left out: where a path is divided into prefix and field, the declared types,
-- the exact operator of a test for null, and the logic of a group that combines nothing.
mutual
def normal (fieldPrefix : Option String) : Node F → Node String
  | .leaf leaf =>
      .leaf ⟨fieldPrefix.getD "" ++ FieldName.sql leaf.field, shownOperator leaf.op leaf.value.isNull, leaf.value, none⟩
  | .group logic own nodes => .group (if nodes.length < 2 then .and else logic) none (normals own nodes)
def normals (fieldPrefix : Option String) : List (Node F) → List (Node String)
  | [] => []
  | node :: nodes => normal fieldPrefix node :: normals fieldPrefix nodes
end

-- What is left of the normal form without the operands.
def shape (fieldPrefix : Option String) (node : Node F) : Outline String :=
  outline (fun leaf _ => leaf.field) none (normal fieldPrefix node)

def shapes (fieldPrefix : Option String) (nodes : List (Node F)) : List (Outline String) :=
  outlines (fun leaf _ => leaf.field) none (normals fieldPrefix nodes)

-- The value whose operands these are.
def gathered (op : Operator) (isNull : Bool) (operands : List Value) : Value :=
  if isNull then .null
  else match op with
    | .between | .isIn => .array operands
    | _ => operands.headD .null

namespace Outline

-- An outline takes the operands of its conditions from the front of a list and leaves the rest.
mutual
def fill : Outline String → List Value → Node String × List Value
  | .leaf field op isNull count, values =>
      (.leaf ⟨field, op, gathered op isNull (values.take count), none⟩, values.drop count)
  | .group logic children, values => (.group logic none (fillAll children values).1, (fillAll children values).2)
def fillAll : List (Outline String) → List Value → List (Node String) × List Value
  | [], values => ([], values)
  | child :: children, values =>
      let head := fill child values
      (head.1 :: (fillAll children head.2).1, (fillAll children head.2).2)
end

-- Filled with equal operands, an outline gives equal trees. Floating numbers are compared by value here: two zeros are
-- equal and no number that is undefined equals itself.
theorem gathered_equal (op : Operator) (isNull : Bool) (xs ys : List Value)
    (same : List.Forall₂ (fun x y => (x == y) = true) xs ys) :
    (gathered op isNull xs == gathered op isNull ys) = true := by
  cases isNull with
  | true => rfl
  | false =>
      have list : (Value.array xs == Value.array ys) = true := (Value.equal_items_iff xs ys).mpr same
      have first : (xs.headD .null == ys.headD .null) = true := by
        cases same with
        | nil => rfl
        | cons head tail => exact head
      cases op <;> first | exact list | exact first

mutual
theorem fill_equal (outline : Outline String) (xs ys : List Value)
    (same : List.Forall₂ (fun x y => (x == y) = true) xs ys) :
    ((outline.fill xs).1 == (outline.fill ys).1) = true ∧
      List.Forall₂ (fun x y => (x == y) = true) (outline.fill xs).2 (outline.fill ys).2 := by
  cases outline with
  | leaf field op isNull count =>
      have value := gathered_equal op isNull _ _ (List.forall₂_take count same)
      refine ⟨?_, List.forall₂_drop count same⟩
      change Node.equalLeaf _ _ = true
      simp [Node.equalLeaf, value]
  | group logic children =>
      obtain ⟨nodes, rest⟩ := fill_all_equal children xs ys same
      refine ⟨?_, rest⟩
      change (logic == logic && (none : Option String) == none && Node.equalNodes _ _) = true
      simp [nodes]
theorem fill_all_equal (outlines : List (Outline String)) (xs ys : List Value)
    (same : List.Forall₂ (fun x y => (x == y) = true) xs ys) :
    Node.equalNodes (fillAll outlines xs).1 (fillAll outlines ys).1 = true ∧
      List.Forall₂ (fun x y => (x == y) = true) (fillAll outlines xs).2 (fillAll outlines ys).2 := by
  cases outlines with
  | nil => exact ⟨rfl, same⟩
  | cons child children =>
      obtain ⟨head, rest⟩ := fill_equal child xs ys same
      obtain ⟨tail, last⟩ := fill_all_equal children _ _ rest
      exact ⟨Bool.and_eq_true_iff.mpr ⟨head, tail⟩, last⟩
end

end Outline

theorem shape_leaf (fieldPrefix : Option String) (leaf : Leaf F) :
    shape fieldPrefix (.leaf leaf) =
      .leaf (path leaf fieldPrefix) (shownOperator leaf.op leaf.value.isNull) leaf.value.isNull
        leaf.operands.length := by
  rw [← normal_operands leaf (path leaf fieldPrefix)]
  rfl

theorem gathered_operands (leaf : Leaf F) (sound : shapeError? leaf = none) :
    gathered (shownOperator leaf.op leaf.value.isNull) leaf.value.isNull leaf.operands = leaf.value := by
  obtain ⟨field, op, value, type⟩ := leaf
  cases value with
  | null => rfl
  | array items => cases op <;> simp_all [gathered, shownOperator, Leaf.operands, Value.isNull, shapeError?]
  | _ => cases op <;> simp_all [gathered, shownOperator, Leaf.operands, Value.isNull, shapeError?]

-- A tree without a failure is its shape filled with its operands.
mutual
theorem fill_shape (fieldPrefix : Option String) (node : Node F) (sound : firstError? node = none)
    (values : List Value) :
    (shape fieldPrefix node).fill (node.leaves.flatMap Leaf.operands ++ values) =
      (normal fieldPrefix node, values) := by
  cases node with
  | leaf leaf =>
      rw [first_error_leaf] at sound
      rw [shape_leaf, Outline.fill, normal, Node.leaves, List.flatMap_singleton, List.take_left, List.drop_left,
        gathered_operands leaf sound, path]
  | group logic own nodes =>
      have children := fill_shapes own nodes sound values
      rw [Node.leaves]
      simp only [shapes] at children
      simp only [shape, normal, outline, Outline.fill, children]
theorem fill_shapes (fieldPrefix : Option String) (nodes : List (Node F))
    (sound : (Node.leavesOf nodes).findSome? shapeError? = none) (values : List Value) :
    Outline.fillAll (shapes fieldPrefix nodes) ((Node.leavesOf nodes).flatMap Leaf.operands ++ values) =
      (normals fieldPrefix nodes, values) := by
  cases nodes with
  | nil => rfl
  | cons node nodes =>
      rw [first_error_cons, Option.or_eq_none_iff] at sound
      have head := fill_shape fieldPrefix node sound.1 ((Node.leavesOf nodes).flatMap Leaf.operands ++ values)
      have tail := fill_shapes fieldPrefix nodes sound.2 values
      simp only [shape] at head
      simp only [shapes] at tail
      rw [Node.leavesOf, List.flatMap_append, List.append_assoc, shapes, normals, outlines, Outline.fillAll]
      simp only [head, tail]
end

end Sql

end SqlFilter
