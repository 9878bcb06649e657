import SqlFilter.Proofs.Sql.Tree

/-!
# Only left-hand sides show

All that rendering takes from prefixes, fields and the transformer is the left-hand side of each condition. Filters that
agree in these and in what they test for render alike.
-/

set_option autoImplicit false

namespace SqlFilter

-- An error without the field it names.
def FilterError.unnamed : FilterError → FilterError
  | .invalidShape _ op expected => .invalidShape "" op expected
  | e => e

variable {F G : Type}

-- Conditions that test for the same, whatever they are about. Their fields may even be of different types.
def Leaf.SameTest (leaf : Leaf F) (other : Leaf G) : Prop :=
  leaf.op = other.op ∧ leaf.value = other.value ∧ leaf.dataType = other.dataType

namespace Node

mutual
/-- The texts that groups have for their fields play no part in it. -/
inductive SameTests : Node F → Node G → Prop where
  | leaf {leaf : Leaf F} {other : Leaf G} (same : leaf.SameTest other) : SameTests (.leaf leaf) (.leaf other)
  | group {logic : Logic} {own otherOwn : Option String} {nodes : List (Node F)} {others : List (Node G)}
      (same : AllSameTests nodes others) : SameTests (.group logic own nodes) (.group logic otherOwn others)
inductive AllSameTests : List (Node F) → List (Node G) → Prop where
  | nil : AllSameTests [] []
  | cons {node : Node F} {other : Node G} {nodes : List (Node F)} {others : List (Node G)}
      (head : SameTests node other) (tail : AllSameTests nodes others) : AllSameTests (node :: nodes) (other :: others)
end

def pushedField (place : Leaf String × Option String) : Leaf String :=
  { place.1 with field := place.2.getD "" ++ place.1.field }

-- The tree with the text of each group moved into the fields of the conditions directly in it.
mutual
def pushed (fieldPrefix : Option String) : Node String → Node String
  | .leaf condition => .leaf (pushedField (condition, fieldPrefix))
  | .group logic own nodes => .group logic none (pushedAll own nodes)
def pushedAll (fieldPrefix : Option String) : List (Node String) → List (Node String)
  | [] => []
  | node :: nodes => pushed fieldPrefix node :: pushedAll fieldPrefix nodes
end

mutual
theorem pushed_same_tests (fieldPrefix : Option String) (node : Node String) :
    SameTests node (node.pushed fieldPrefix) := by
  cases node with
  | leaf condition => exact .leaf ⟨rfl, rfl, rfl⟩
  | group logic own nodes => exact .group (pushed_all_same_tests own nodes)
theorem pushed_all_same_tests (fieldPrefix : Option String) (nodes : List (Node String)) :
    AllSameTests nodes (pushedAll fieldPrefix nodes) := by
  cases nodes with
  | nil => exact .nil
  | cons node nodes => exact .cons (pushed_same_tests fieldPrefix node) (pushed_all_same_tests fieldPrefix nodes)
end

mutual
theorem placed_pushed (fieldPrefix : Option String) (node : Node String) :
    (node.pushed fieldPrefix).placed none = (node.placed fieldPrefix).map fun place => (pushedField place, none) := by
  cases node with
  | leaf condition => rfl
  | group logic own nodes => exact placed_of_pushed own nodes
theorem placed_of_pushed (fieldPrefix : Option String) (nodes : List (Node String)) :
    placedOf none (pushedAll fieldPrefix nodes) =
      (placedOf fieldPrefix nodes).map fun place => (pushedField place, none) := by
  cases nodes with
  | nil => rfl
  | cons node nodes =>
      rw [pushedAll, placedOf, placedOf, List.map_append, placed_pushed fieldPrefix node,
        placed_of_pushed fieldPrefix nodes]
end

end Node

namespace Sql

-- A piece without its left-hand side.
def Piece.unlabelled : Piece → Piece
  | .left _ => .left ""
  | piece => piece

-- A fragment is what it is without its left-hand sides, together with the list of these.
theorem fragment_of_lefts (a b : Fragment) (same : a.map Piece.unlabelled = b.map Piece.unlabelled)
    (lefts : a.lefts = b.lefts) : a = b := by
  induction a generalizing b with
  | nil => exact (List.map_eq_nil_iff.mp same.symm).symm
  | cons piece a ih =>
      obtain ⟨other, b, rfl, head, tail⟩ := List.map_eq_cons_iff.mp same.symm
      cases piece with
      | left s =>
          cases other with
          | left t =>
              obtain ⟨rfl, others⟩ := List.cons.inj lefts
              rw [ih b tail.symm others]
          | text t | operand quoted value => cases head
      | text s =>
          cases other with
          | text t =>
              cases head
              rw [ih b tail.symm lefts]
          | left t | operand quoted value => cases head
      | operand quoted value =>
          cases other with
          | operand otherQuoted otherValue =>
              cases head
              rw [ih b tail.symm lefts]
          | text t | left t => cases head

theorem same_test_condition {leaf : Leaf F} {other : Leaf G} (same : leaf.SameTest other) :
    conditionFragment leaf = conditionFragment other := by
  obtain ⟨field, op, value, type⟩ := leaf
  obtain ⟨otherField, otherOp, otherValue, otherType⟩ := other
  obtain ⟨rfl, rfl, rfl⟩ := same
  rfl

variable [FieldName F] [FieldName G]

theorem same_test_shape_error {leaf : Leaf F} {other : Leaf G} (same : leaf.SameTest other) :
    (shapeError? leaf).map FilterError.unnamed = (shapeError? other).map FilterError.unnamed := by
  obtain ⟨field, op, value, type⟩ := leaf
  obtain ⟨otherField, otherOp, otherValue, otherType⟩ := other
  obtain ⟨rfl, rfl, rfl⟩ := same
  unfold shapeError?
  dsimp only
  split <;> rfl

mutual
theorem same_tests_first_error (node : Node F) (other : Node G) (same : node.SameTests other) :
    (firstError? node).map FilterError.unnamed = (firstError? other).map FilterError.unnamed := by
  cases same with
  | leaf same => rw [first_error_leaf, first_error_leaf, same_test_shape_error same]
  | group same => exact same_tests_first_errors _ _ same
theorem same_tests_first_errors (nodes : List (Node F)) (others : List (Node G))
    (same : Node.AllSameTests nodes others) :
    ((Node.leavesOf nodes).findSome? shapeError?).map FilterError.unnamed =
      ((Node.leavesOf others).findSome? shapeError?).map FilterError.unnamed := by
  cases same with
  | nil => rfl
  | cons head tail =>
      rw [first_error_cons, first_error_cons, Option.map_or, Option.map_or, same_tests_first_error _ _ head,
        same_tests_first_errors _ _ tail]
end

section Unlabelled

variable (transformer : Option (Transformer F)) (otherTransformer : Option (Transformer G)) (width : Nat)

mutual
theorem same_tests_fragment (depth : Nat) (fieldPrefix otherPrefix : Option String) (node : Node F) (other : Node G)
    (same : node.SameTests other) :
    (nodeFragment transformer width depth fieldPrefix node).map Piece.unlabelled =
      (nodeFragment otherTransformer width depth otherPrefix other).map Piece.unlabelled := by
  cases same with
  | leaf same => rw [nodeFragment, nodeFragment, same_test_condition same]; rfl
  | @group logic own otherOwn nodes others same =>
      have children := same_tests_fragments (depth + 1) own otherOwn nodes others same
      have spread (fragments : List Fragment) :=
        Fragment.map_intercalate Piece.unlabelled (separator logic (depth + 1) width) rfl fragments
      simp only [nodeFragment, List.map_append, List.map_cons, spread, children]
theorem same_tests_fragments (depth : Nat) (fieldPrefix otherPrefix : Option String) (nodes : List (Node F))
    (others : List (Node G)) (same : Node.AllSameTests nodes others) :
    (nodeFragments transformer width depth fieldPrefix nodes).map (List.map Piece.unlabelled) =
      (nodeFragments otherTransformer width depth otherPrefix others).map (List.map Piece.unlabelled) := by
  cases same with
  | nil => rfl
  | @cons node other nodes others head tail =>
      rw [nodeFragments, nodeFragments, List.map_cons, List.map_cons,
        same_tests_fragment depth fieldPrefix otherPrefix node other head,
        same_tests_fragments depth fieldPrefix otherPrefix nodes others tail]
end

end Unlabelled

theorem guarded_map_error {α : Type} (failure : Option FilterError) (result : α) :
    (guarded failure result).mapError FilterError.unnamed = guarded (failure.map FilterError.unnamed) result := by
  cases failure <;> rfl

/-- Both modes give the same text and the same values, or errors that differ at most in the field they name. -/
def RenderAlike (root : Node F) (options : RenderOptions F) (other : Node G) (otherOptions : RenderOptions G) : Prop :=
  (renderInline (some root) options).mapError FilterError.unnamed =
      (renderInline (some other) otherOptions).mapError FilterError.unnamed ∧
    (renderParameterized (some root) options).mapError FilterError.unnamed =
      (renderParameterized (some other) otherOptions).mapError FilterError.unnamed

theorem render_alike (root : Node F) (other : Node G) (options : RenderOptions F) (otherOptions : RenderOptions G)
    (same : root.SameTests other) (width : options.indentation = otherOptions.indentation)
    (start : options.start = otherOptions.start)
    (lefts : leftTokens options.transformer root = leftTokens otherOptions.transformer other) :
    RenderAlike root options other otherOptions := by
  have fragments : fragment options root = fragment otherOptions other := by
    refine fragment_of_lefts _ _ ?_ (by rw [fragment_lefts, fragment_lefts, lefts])
    rw [fragment, fragment, width]
    exact same_tests_fragment _ _ _ 0 none none root other same
  have errors := same_tests_first_error root other same
  constructor
  · rw [render_inline_eq, render_inline_eq, guarded_map_error, guarded_map_error, errors, fragments]
  · by_cases zero : options.start = 0
    · rw [renderParameterized, renderParameterized, if_pos zero, if_pos (start ▸ zero)]
    · rw [render_parameterized_eq root options zero, render_parameterized_eq other otherOptions (start ▸ zero),
        guarded_map_error, guarded_map_error, errors, fragments, start]

theorem pushed_left (transformer : Option (Transformer String))
    (standard : transformer = none ∨ transformer = some quoteIdentifiers) (place : Leaf String × Option String) :
    left transformer (Node.pushedField place) none = left transformer place.1 place.2 := by
  have paths : path (Node.pushedField place) none = path place.1 place.2 := by
    simp [path, Node.pushedField, FieldName.sql]
  rcases standard with rfl | rfl
  · exact paths
  · simp [left, quoteIdentifiers, paths]

theorem pushed_left_tokens (transformer : Option (Transformer String))
    (standard : transformer = none ∨ transformer = some quoteIdentifiers) (root : Node String) :
    leftTokens transformer (root.pushed none) = leftTokens transformer root := by
  rw [leftTokens, leftTokens, Node.placed_pushed, List.map_map]
  exact List.map_congr_left fun place _ => pushed_left transformer standard place

/-- Fields, texts of groups and transformers come to light in the left-hand sides only, and of the groups around a
condition only the innermost has a say in its left-hand side. So the text of a group may as well stand in the fields.
-/
theorem only_left_tokens_show :
    (∀ (F G : Type) [FieldName F] [FieldName G] (root : Node F) (other : Node G) (options : RenderOptions F)
      (otherOptions : RenderOptions G), root.SameTests other → options.indentation = otherOptions.indentation →
      options.start = otherOptions.start →
      leftTokens options.transformer root = leftTokens otherOptions.transformer other →
      RenderAlike root options other otherOptions) ∧
    ∀ (root : Node String) (options : RenderOptions String),
      options.transformer = none ∨ options.transformer = some quoteIdentifiers →
      RenderAlike root options (root.pushed none) options := by
  constructor
  · intro F G _ _ root other options otherOptions same width start lefts
    exact render_alike root other options otherOptions same width start lefts
  · intro root options standard
    exact render_alike root (root.pushed none) options options (Node.pushed_same_tests none root) rfl rfl
      (pushed_left_tokens options.transformer standard root).symm

def scopedFilter : Node String :=
  .group .and (some "u.") [.leaf (.of "id" .eq (.int 1)),
    .group .or none [.leaf (.of "a" .eq .null), .group .and (some "") [.leaf (.of "b" .isIn (.array [.string "x"]))]]]

def renamedFilter : Node String :=
  .group .and none [.leaf (.of "user" .eq (.int 1)),
    .group .or (some "x") [.leaf (.of "" .eq .null),
      .group .and (some "b") [.leaf (.of "" .isIn (.array [.string "x"]))]]]

-- What would write the left-hand sides of the one filter for the other.
def relabelling : Transformer String := fun leaf fieldPrefix =>
  if leaf.field = "user" then some ⟨some "u.id"⟩
  else if fieldPrefix = some "x" then some ⟨some "a"⟩
  else some ⟨none⟩

theorem renamed_renders_alike :
    RenderAlike scopedFilter { indentation := 2, start := 7 } renamedFilter
        { transformer := some relabelling, indentation := 2, start := 7 } ∧
      RenderAlike scopedFilter { transformer := some quoteIdentifiers } (scopedFilter.pushed none)
        { transformer := some quoteIdentifiers } := by
  have same : scopedFilter.SameTests renamedFilter :=
    .group (.cons (.leaf ⟨rfl, rfl, rfl⟩) (.cons (.group (.cons (.leaf ⟨rfl, rfl, rfl⟩)
      (.cons (.group (.cons (.leaf ⟨rfl, rfl, rfl⟩) .nil)) .nil))) .nil))
  exact ⟨only_left_tokens_show.1 _ _ _ _ _ _ same rfl rfl (by decide +kernel),
    only_left_tokens_show.2 _ _ (.inr rfl)⟩

end Sql

end SqlFilter
