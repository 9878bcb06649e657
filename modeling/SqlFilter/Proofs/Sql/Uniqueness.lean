import SqlFilter.Proofs.Sql.Words

/-!
# SQL and values determine the tree

With quoted identifiers the SQL, read from the left, leaves at each point one way to go on. So trees with the same SQL
and the same bound values have the same normal form.
-/

set_option autoImplicit false

namespace SqlFilter.Sql

variable {F G : Type}

variable [FieldName F] [FieldName G]

def quotedFragment (width depth : Nat) (fieldPrefix : Option String) (node : Node F) : Fragment :=
  nodeFragment (some quoteIdentifiers) width depth fieldPrefix node

theorem quoted_leaf_chars (width depth : Nat) (fieldPrefix : Option String) (leaf : Leaf F) (number : UInt64) :
    (quotedFragment width depth fieldPrefix (.leaf leaf)).chars number =
      (left (some quoteIdentifiers) leaf fieldPrefix).toList ++ ' ' :: (conditionFragment leaf).chars number := by
  rw [quotedFragment, nodeFragment]
  rfl

theorem child_not_closing (width depth : Nat) (fieldPrefix : Option String) (child : Node F) (number : UInt64)
    (level : Nat) (x y : List Char) :
    (quotedFragment width depth fieldPrefix child).chars number ++ x ≠ (closing level width ++ ")").toList ++ y := by
  intro same
  obtain ⟨c, rest, closes, blank⟩ := closing_first level width
  have begins : ∃ d tail, (quotedFragment width depth fieldPrefix child).chars number = d :: tail ∧
      (d = '"' ∨ d = '(') := by
    cases child with
    | leaf leaf =>
        obtain ⟨tail, quote⟩ := left_first leaf fieldPrefix
        exact ⟨'"', _, by rw [quoted_leaf_chars, quote]; rfl, .inl rfl⟩
    | group logic own nodes =>
        exact ⟨'(', _, by rw [quotedFragment, nodeFragment]; simp [Fragment.chars]; rfl, .inr rfl⟩
  obtain ⟨d, tail, opens, mark⟩ := begins
  rw [opens, closes] at same
  have equal := (List.cons.inj same).1
  rcases mark with rfl | rfl <;> rcases blank with rfl | rfl <;> exact absurd equal (by decide)

-- The children of a group, and those after the first one, each after its separator.
def childrenFragment (width depth : Nat) (logic : Logic) (own : Option String) (nodes : List (Node F)) : Fragment :=
  [Piece.text (separator logic depth width)].intercalate (nodeFragments (some quoteIdentifiers) width depth own nodes)

def furtherChildren (width depth : Nat) (logic : Logic) (own : Option String) (nodes : List (Node F)) : Fragment :=
  (nodeFragments (some quoteIdentifiers) width depth own nodes).flatMap fun child =>
    .text (separator logic depth width) :: child

theorem group_chars (width depth : Nat) (fieldPrefix own : Option String) (logic : Logic) (nodes : List (Node F))
    (number : UInt64) (rest : List Char) :
    (quotedFragment width depth fieldPrefix (.group logic own nodes)).chars number ++ rest =
      ("(" ++ indent (depth + 1) width).toList ++ ((childrenFragment width (depth + 1) logic own nodes).chars number ++
        ((closing (depth + 1) width ++ ")").toList ++ rest)) := by
  rw [quotedFragment, nodeFragment, List.cons_append, Fragment.chars, Fragment.chars_append]
  simp [childrenFragment, Fragment.chars]

theorem first_child_chars (width depth : Nat) (logic : Logic) (own : Option String) (first : Node F)
    (others : List (Node F)) (number : UInt64) (rest : List Char) :
    (childrenFragment width depth logic own (first :: others)).chars number ++ rest =
      (quotedFragment width depth own first).chars number ++
        ((furtherChildren width depth logic own others).chars (number + .ofNat (Leaf.operandTotal first.leaves)) ++
          rest) := by
  have operands := node_operands (some quoteIdentifiers) width depth own first
  rw [childrenFragment, nodeFragments, intercalate_cons_flat, Fragment.chars_append, operands, List.append_assoc]
  rfl

theorem further_child_chars (width depth : Nat) (logic : Logic) (own : Option String) (first : Node F)
    (others : List (Node F)) (number : UInt64) (rest : List Char) :
    (furtherChildren width depth logic own (first :: others)).chars number ++ rest =
      (separator logic depth width).toList ++ ((quotedFragment width depth own first).chars number ++
        ((furtherChildren width depth logic own others).chars (number + .ofNat (Leaf.operandTotal first.leaves)) ++
          rest)) := by
  have operands := node_operands (some quoteIdentifiers) width depth own first
  rw [furtherChildren, nodeFragments, List.flatMap_cons, List.cons_append, Fragment.chars, Fragment.chars_append,
    operands, List.append_assoc, List.append_assoc]
  rfl

theorem shapes_length (fieldPrefix : Option String) (nodes : List (Node F)) :
    (shapes fieldPrefix nodes).length = nodes.length := by
  unfold shapes
  induction nodes with
  | nil => rfl
  | cons node nodes ih => rw [normals, outlines, List.length_cons, ih, List.length_cons]

theorem shape_group (fieldPrefix own : Option String) (logic : Logic) (nodes : List (Node F)) :
    shape fieldPrefix (.group logic own nodes) =
      .group (if nodes.length < 2 then .and else logic) (shapes own nodes) := by
  rw [shape, normal, outline]
  rfl

-- By induction on the first tree. Trees that are written alike have equally many operands, so what follows them goes on
-- with one number, and no lemma has to tell where a number ends.
mutual
theorem node_unique (width depth : Nat) (p q : Option String) (node : Node F) (other : Node G)
    (sound : firstError? node = none) (otherSound : firstError? other = none) (number : UInt64) (x y : List Char)
    (same : (quotedFragment width depth p node).chars number ++ x =
      (quotedFragment width depth q other).chars number ++ y) :
    shape p node = shape q other ∧ Leaf.operandTotal node.leaves = Leaf.operandTotal other.leaves ∧ x = y := by
  cases node with
  | leaf leaf =>
      cases other with
      | leaf otherLeaf =>
          rw [first_error_leaf] at sound otherSound
          rw [quoted_leaf_chars, quoted_leaf_chars, List.append_assoc, List.append_assoc] at same
          obtain ⟨paths, conditions⟩ := quoted_path_unique leaf otherLeaf p q _ _ same
          obtain ⟨op, isNull, count, rest⟩ :=
            condition_unique leaf otherLeaf sound otherSound number x y conditions
          refine ⟨?_, ?_, rest⟩
          · rw [shape_leaf, shape_leaf, paths, op, isNull, count]
          · simpa [Leaf.operandTotal, Node.leaves] using count
      | group logic own nodes =>
          obtain ⟨tail, quote⟩ := left_first leaf p
          rw [quoted_leaf_chars, quote, quotedFragment, nodeFragment] at same
          simp [Fragment.chars] at same
  | group logic own nodes =>
      cases other with
      | leaf leaf =>
          obtain ⟨tail, quote⟩ := left_first leaf q
          rw [quoted_leaf_chars, quote, quotedFragment, nodeFragment] at same
          simp [Fragment.chars] at same
      | group otherLogic otherOwn others =>
          rw [group_chars, group_chars] at same
          obtain ⟨children, total, logics, rest⟩ := children_unique width depth logic otherLogic own otherOwn
            nodes others sound otherSound number x y (List.append_cancel_left same)
          have lengths : nodes.length = others.length := by
            rw [← shapes_length own nodes, children, shapes_length]
          refine ⟨?_, ?_, rest⟩
          · rw [shape_group, shape_group, children]
            by_cases few : nodes.length < 2
            · rw [if_pos few, if_pos (lengths ▸ few)]
            · rw [if_neg few, if_neg (lengths ▸ few), logics.resolve_left few]
          · rw [Node.leaves, Node.leaves, total]
theorem children_unique (width depth : Nat) (logic otherLogic : Logic) (own otherOwn : Option String)
    (nodes : List (Node F)) (others : List (Node G))
    (sound : (Node.leavesOf nodes).findSome? shapeError? = none)
    (otherSound : (Node.leavesOf others).findSome? shapeError? = none) (number : UInt64) (x y : List Char)
    (same : (childrenFragment width (depth + 1) logic own nodes).chars number ++
        ((closing (depth + 1) width ++ ")").toList ++ x) =
      (childrenFragment width (depth + 1) otherLogic otherOwn others).chars number ++
        ((closing (depth + 1) width ++ ")").toList ++ y)) :
    shapes own nodes = shapes otherOwn others ∧
      Leaf.operandTotal (Node.leavesOf nodes) = Leaf.operandTotal (Node.leavesOf others) ∧
      (nodes.length < 2 ∨ logic = otherLogic) ∧ x = y := by
  cases nodes with
  | nil =>
      cases others with
      | nil => exact ⟨rfl, rfl, .inl (by simp), List.append_cancel_left same⟩
      | cons otherFirst others =>
          rw [first_child_chars] at same
          exact absurd same.symm (child_not_closing _ _ _ _ _ _ _ _)
  | cons first nodes =>
      cases others with
      | nil =>
          rw [first_child_chars] at same
          exact absurd same (child_not_closing _ _ _ _ _ _ _ _)
      | cons otherFirst others =>
          rw [first_error_cons, Option.or_eq_none_iff] at sound otherSound
          rw [first_child_chars, first_child_chars] at same
          obtain ⟨head, headTotal, tails⟩ := node_unique width (depth + 1) own otherOwn first otherFirst
            sound.1 otherSound.1 number _ _ same
          rw [headTotal] at tails
          obtain ⟨tail, tailTotal, logics, rest⟩ := siblings_unique width depth logic otherLogic own otherOwn
            nodes others sound.2 otherSound.2 _ x y tails
          refine ⟨congrArg₂ List.cons head tail, ?_, ?_, rest⟩
          · rw [Node.leavesOf, Node.leavesOf, Leaf.operand_total_append, Leaf.operand_total_append, headTotal,
              tailTotal]
          · exact logics.imp_left fun single => by simp [single]
theorem siblings_unique (width depth : Nat) (logic otherLogic : Logic) (own otherOwn : Option String)
    (nodes : List (Node F)) (others : List (Node G))
    (sound : (Node.leavesOf nodes).findSome? shapeError? = none)
    (otherSound : (Node.leavesOf others).findSome? shapeError? = none) (number : UInt64) (x y : List Char)
    (same : (furtherChildren width (depth + 1) logic own nodes).chars number ++
        ((closing (depth + 1) width ++ ")").toList ++ x) =
      (furtherChildren width (depth + 1) otherLogic otherOwn others).chars number ++
        ((closing (depth + 1) width ++ ")").toList ++ y)) :
    shapes own nodes = shapes otherOwn others ∧
      Leaf.operandTotal (Node.leavesOf nodes) = Leaf.operandTotal (Node.leavesOf others) ∧
      (nodes = [] ∨ logic = otherLogic) ∧ x = y := by
  cases nodes with
  | nil =>
      cases others with
      | nil => exact ⟨rfl, rfl, .inl rfl, List.append_cancel_left same⟩
      | cons otherFirst others =>
          rw [further_child_chars] at same
          exact absurd same.symm (separator_not_closing otherLogic depth width _ x)
  | cons first nodes =>
      cases others with
      | nil =>
          rw [further_child_chars] at same
          exact absurd same (separator_not_closing logic depth width _ y)
      | cons otherFirst others =>
          rw [first_error_cons, Option.or_eq_none_iff] at sound otherSound
          rw [further_child_chars, further_child_chars] at same
          obtain ⟨logics, children⟩ := separator_unique logic otherLogic (depth + 1) width _ _ same
          obtain ⟨head, headTotal, tails⟩ := node_unique width (depth + 1) own otherOwn first otherFirst
            sound.1 otherSound.1 number _ _ children
          rw [headTotal] at tails
          obtain ⟨tail, tailTotal, _, rest⟩ := siblings_unique width depth logic otherLogic own otherOwn
            nodes others sound.2 otherSound.2 _ x y tails
          refine ⟨congrArg₂ List.cons head tail, ?_, .inr logics, rest⟩
          rw [Node.leavesOf, Node.leavesOf, Leaf.operand_total_append, Leaf.operand_total_append, headTotal, tailTotal]
end

/-- The SQL of a tree and the values bound to it determine all of its normal form: which conditions are grouped, by
which logic, and which operator and operands each has. Values may be compared as data, or as values are compared. -/
theorem sql_and_values_determine_tree (root : Node F) (other : Node G) (width : Nat) (start : UInt64)
    (result otherResult : BoundSql)
    (rendered : renderParameterized (some root) (quoting width start) = .ok result)
    (otherRendered : renderParameterized (some other) (quoting width start) = .ok otherResult)
    (sameSql : result.sql = otherResult.sql) :
    (result.values = otherResult.values → normal none root = normal none other) ∧
      ((result.values == otherResult.values) = true → (normal none root == normal none other) = true) := by
  obtain ⟨_, sound, sql, values⟩ := rendered_parameterized rendered
  obtain ⟨_, otherSound, otherSql, otherValues⟩ := rendered_parameterized otherRendered
  have texts : (fragment (quoting width start) root).chars start ++ [] =
      (fragment (quoting width start) other).chars start ++ [] := by
    rw [sql, otherSql, Option.some.injEq, ← String.toList_inj, Fragment.write_chars, Fragment.write_chars] at sameSql
    rw [List.append_nil, List.append_nil]
    exact sameSql
  have shapes : shape none root = shape none other :=
    (node_unique width 0 none none root other sound otherSound start [] [] texts).1
  have filled := fill_shape none root sound []
  have otherFilled := fill_shape none other otherSound []
  rw [List.append_nil, ← values] at filled
  rw [List.append_nil, ← otherValues, ← shapes] at otherFilled
  constructor
  · intro same
    rw [same, otherFilled] at filled
    exact (congrArg Prod.fst filled).symm
  · intro same
    have equal := (Outline.fill_equal (shape none root) _ _ ((Value.items_beq_iff _ _).mp same)).1
    rwa [filled, otherFilled] at equal

-- One filter written in two ways: the prefix is moved, a type is declared, and the logic of a lone child is changed.
def prefixedFilter : Node String :=
  .group .and (some "a.") [.leaf (.of "id" .isIn (.array [.int 1, .null])),
    .group .or none [.leaf (.of "x" .like .null)]]

def spelledOutFilter : Node String :=
  .group .and none [.leaf ⟨"a.id", .isIn, .array [.int 1, .null], some .string⟩,
    .group .and (some "x") [.leaf (.of "" .isIn .null)]]

theorem two_spellings_normal :
    ∃ result otherResult, renderParameterized (some prefixedFilter) (quoting 2 7) = .ok result ∧
      renderParameterized (some spelledOutFilter) (quoting 2 7) = .ok otherResult ∧ result.sql = otherResult.sql ∧
      result.values = otherResult.values ∧ normal none prefixedFilter = normal none spelledOutFilter := by
  refine ⟨_, _, rfl, rfl, by decide +kernel, rfl, ?_⟩
  obtain ⟨equal, _⟩ :=
    sql_and_values_determine_tree prefixedFilter spelledOutFilter 2 7 _ _ rfl rfl (by decide +kernel)
  exact equal rfl

end SqlFilter.Sql
