import SqlFilter.Proofs.Sql.Fragment

/-!
# Rendering as an outcome

What rendering a tree comes to, in closed form: the error of the first misshapen condition, or else the fragment of the
tree written with the encoding. The proofs follow the renderer function by function.
-/

set_option autoImplicit false

namespace SqlFilter

variable {F : Type}

-- A null value has no operands, `between` and `in` have the items of their list, every other value is one itself.
def Leaf.operands (leaf : Leaf F) : List Value :=
  match leaf.op, leaf.value with
  | _, .null => []
  | .between, .array items => items
  | .isIn, .array items => items
  | _, value => [value]

-- How many operands conditions have together.
def Leaf.operandTotal (leaves : List (Leaf F)) : Nat :=
  (leaves.flatMap operands).length

theorem Leaf.operand_total_append (leaves others : List (Leaf F)) :
    operandTotal (leaves ++ others) = operandTotal leaves + operandTotal others := by
  rw [operandTotal, List.flatMap_append, List.length_append]
  rfl

namespace Node

-- Each condition with the text of the group directly around it. The texts of groups further out play no part.
mutual
def placed (fieldPrefix : Option String) : Node F → List (Leaf F × Option String)
  | .leaf condition => [(condition, fieldPrefix)]
  | .group _ own nodes => placedOf own nodes
def placedOf (fieldPrefix : Option String) : List (Node F) → List (Leaf F × Option String)
  | [] => []
  | node :: nodes => placed fieldPrefix node ++ placedOf fieldPrefix nodes
end

mutual
theorem placed_leaves (fieldPrefix : Option String) (node : Node F) :
    (node.placed fieldPrefix).map Prod.fst = node.leaves := by
  cases node with
  | leaf condition => rfl
  | group logic own nodes => exact placed_of_leaves own nodes
theorem placed_of_leaves (fieldPrefix : Option String) (nodes : List (Node F)) :
    (placedOf fieldPrefix nodes).map Prod.fst = leavesOf nodes := by
  cases nodes with
  | nil => rfl
  | cons node nodes =>
      rw [placedOf, leavesOf, List.map_append, placed_leaves fieldPrefix node, placed_of_leaves fieldPrefix nodes]
end

end Node

namespace Sql

def opening (op : Operator) (isNull : Bool) : String :=
  if isNull then if op = .eq then "is null" else "is not null"
  else match op with
    | .isIn => "in ("
    | op => op.sql ++ " "

def glue : Operator → String
  | .between => " and "
  | _ => ", "

def ending (op : Operator) (isNull : Bool) : Fragment :=
  if op = .isIn && !isNull then [.text ")"] else []

def conditionFragment (leaf : Leaf F) : Fragment :=
  .text (opening leaf.op leaf.value.isNull) ::
    [Piece.text (glue leaf.op)].intercalate (leaf.operands.map fun value => [.operand (isQuoted leaf) value]) ++
    ending leaf.op leaf.value.isNull

-- What a view that takes no notice of texts sees in a condition.
theorem condition_view {α : Type} (view : Piece → Option α) (silent : ∀ s, view (.text s) = none) (leaf : Leaf F) :
    (conditionFragment leaf).filterMap view =
      leaf.operands.filterMap fun value => view (.operand (isQuoted leaf) value) := by
  have noEnding : (ending leaf.op leaf.value.isNull).filterMap view = [] := by
    unfold ending
    split <;> simp [silent]
  rw [conditionFragment, List.filterMap_append, List.filterMap_cons_none (silent _),
    Fragment.filter_map_intercalate view _ (silent _), noEnding, List.append_nil]
  induction leaf.operands with
  | nil => rfl
  | cons value values ih =>
      rw [List.map_cons, List.flatMap_cons, ih]
      cases seen : view (.operand (isQuoted leaf) value) <;> simp [seen]

theorem condition_operands (leaf : Leaf F) : (conditionFragment leaf).operands = leaf.operands := by
  have seen := condition_view Piece.operand? (fun _ => rfl) leaf
  simpa [Fragment.operands, Piece.operand?] using seen

theorem condition_lefts (leaf : Leaf F) : (conditionFragment leaf).lefts = [] := by
  have seen := condition_view Piece.left? (fun _ => rfl) leaf
  exact seen.trans (List.filterMap_eq_nil_iff.mpr fun _ _ => rfl)

variable [FieldName F]

-- The left-hand sides in the order of their conditions. A condition that is the whole tree has no group around it.
def leftTokens (transformer : Option (Transformer F)) (root : Node F) : List String :=
  (root.placed none).map fun place => left transformer place.1 place.2

def shapeError? (leaf : Leaf F) : Option FilterError :=
  match leaf.op, leaf.value with
  | _, .null => none
  | .between, .array [_, _] => none
  | .between, _ => some (invalidShape leaf "a 2-element array")
  | .isIn, .array (_ :: _) => none
  | .isIn, _ => some (invalidShape leaf "a non-empty array")
  | _, .array _ => some (invalidShape leaf "a single value")
  | _, _ => none

mutual
def nodeFragment (transformer : Option (Transformer F)) (width depth : Nat) (fieldPrefix : Option String) :
    Node F → Fragment
  | .leaf leaf => .left (left transformer leaf fieldPrefix) :: .text " " :: conditionFragment leaf
  | .group logic own nodes =>
      .text ("(" ++ indent (depth + 1) width) ::
        [Piece.text (separator logic (depth + 1) width)].intercalate
          (nodeFragments transformer width (depth + 1) own nodes) ++
        [.text (closing (depth + 1) width ++ ")")]
def nodeFragments (transformer : Option (Transformer F)) (width depth : Nat) (fieldPrefix : Option String) :
    List (Node F) → List Fragment
  | [] => []
  | node :: nodes =>
      nodeFragment transformer width depth fieldPrefix node :: nodeFragments transformer width depth fieldPrefix nodes
end

def fragment (options : RenderOptions F) (root : Node F) : Fragment :=
  nodeFragment options.transformer options.indentation 0 none root

def firstError? (root : Node F) : Option FilterError :=
  root.leaves.findSome? shapeError?

theorem first_error_leaf (leaf : Leaf F) : firstError? (.leaf leaf) = shapeError? leaf := by
  simp [firstError?, Node.leaves]

theorem first_error_cons (node : Node F) (nodes : List (Node F)) :
    (Node.leavesOf (node :: nodes)).findSome? shapeError? =
      (firstError? node).or ((Node.leavesOf nodes).findSome? shapeError?) := by
  rw [Node.leavesOf, List.findSome?_append, firstError?]

@[simp] theorem writer_run_map {α β : Type} (f : α → β) (program : Writer α) (encoding : Encoding) :
    (f <$> program).run encoding =
      match program.run encoding with
      | .ok a encoding => .ok (f a) encoding
      | .error e encoding => .error e encoding := by
  simp only [Functor.map, EStateM.map, EStateM.run]
  cases program encoding <;> rfl

@[simp] theorem writer_run_throw {α : Type} (e : FilterError) (encoding : Encoding) :
    (throw e : Writer α).run encoding = .error e encoding := rfl

theorem encode_run (quoted : Bool) (value : Value) (encoding : Encoding) :
    (encode quoted value).run encoding = .ok (encoding.take quoted value).1 (encoding.take quoted value).2 := by
  cases encoding <;> rfl

theorem encode_all_run (quoted : Bool) (items : List Value) (encoding : Encoding) :
    (items.mapM (encode quoted)).run encoding =
      .ok (Fragment.writeAll (items.map fun value => [.operand quoted value]) encoding).1
        (Fragment.writeAll (items.map fun value => [.operand quoted value]) encoding).2 := by
  induction items generalizing encoding with
  | nil => rfl
  | cons item items ih =>
      simp [List.mapM_cons, encode_run, ih, Fragment.writeAll, Fragment.write]

-- A condition of the wrong shape leaves the encoding as it was.
theorem condition_run (leaf : Leaf F) (encoding : Encoding) :
    (condition leaf).run encoding =
      match shapeError? leaf with
      | some e => .error e encoding
      | none => .ok ((conditionFragment leaf).write encoding).1 ((conditionFragment leaf).write encoding).2 := by
  obtain ⟨field, op, value, type⟩ := leaf
  cases value with
  | null =>
      cases op <;>
        simp [condition, shapeError?, conditionFragment, opening, ending, Leaf.operands, Value.isNull, Fragment.write]
  | array items =>
      cases op with
      | between =>
          rcases items with _ | ⟨low, _ | ⟨high, _ | ⟨third, others⟩⟩⟩
          case cons.cons.nil =>
            simp [condition, shapeError?, conditionFragment, opening, glue, ending, Leaf.operands, Value.isNull,
              Fragment.write, encode_run, String.append_assoc]
          all_goals rfl
      | isIn =>
          cases items with
          | nil => rfl
          | cons first others =>
              simp only [condition, EStateM.run_bind, encode_all_run, EStateM.run_pure, shapeError?, conditionFragment,
                List.cons_append, Fragment.write, Fragment.write_append, glue, Leaf.operands,
                Fragment.write_intercalate]
              simp [opening, ending, Value.isNull, Operator.sql, Fragment.write, String.append_assoc]
      | _ => simp [condition, shapeError?]
  | _ =>
      cases op <;>
        simp [condition, shapeError?, conditionFragment, opening, ending, Leaf.operands, Value.isNull, Fragment.write,
          encode_run]

-- What a failure leaves in the encoding is of no interest to a whole rendering.
def outcome {α : Type} : EStateM.Result FilterError Encoding α → Except FilterError (α × Encoding)
  | .ok a encoding => .ok (a, encoding)
  | .error e _ => .error e

def guarded {α : Type} (failure : Option FilterError) (result : α) : Except FilterError α :=
  match failure with
  | none => .ok result
  | some e => .error e

theorem outcome_bind {α β : Type} (program : Writer α) (next : α → Writer β) (encoding : Encoding) :
    outcome ((program >>= next).run encoding) =
      (outcome (program.run encoding)).bind fun result => outcome ((next result.1).run result.2) := by
  rw [EStateM.run_bind]
  cases program.run encoding <;> rfl

theorem condition_outcome (leaf : Leaf F) (encoding : Encoding) :
    outcome ((condition leaf).run encoding) = guarded (shapeError? leaf) ((conditionFragment leaf).write encoding) := by
  rw [condition_run]
  cases shapeError? leaf <;> rfl

-- The failure of a tree is that of its first condition of the wrong shape, and otherwise the fragment is written.
mutual
theorem node_outcome (options : RenderOptions F) (depth : Nat) (fieldPrefix : Option String) (node : Node F)
    (encoding : Encoding) :
    outcome ((renderNode options depth fieldPrefix node).run encoding) =
      guarded (firstError? node)
        ((nodeFragment options.transformer options.indentation depth fieldPrefix node).write encoding) := by
  cases node with
  | leaf leaf =>
      rw [renderNode, outcome_bind, condition_outcome, first_error_leaf]
      cases shapeError? leaf with
      | some e => rfl
      | none => simp [guarded, Except.bind, outcome, nodeFragment, Fragment.write, String.append_assoc]
  | group logic own nodes =>
      rw [renderNode, outcome_bind, nodes_outcome options (depth + 1) own nodes encoding, firstError?, Node.leaves]
      cases (Node.leavesOf nodes).findSome? shapeError? with
      | some e => rfl
      | none =>
          simp [guarded, Except.bind, outcome, nodeFragment, Fragment.write, Fragment.write_append,
            Fragment.write_intercalate, String.append_assoc]
theorem nodes_outcome (options : RenderOptions F) (depth : Nat) (fieldPrefix : Option String) (nodes : List (Node F))
    (encoding : Encoding) :
    outcome ((renderNodes options depth fieldPrefix nodes).run encoding) =
      guarded ((Node.leavesOf nodes).findSome? shapeError?)
        (Fragment.writeAll (nodeFragments options.transformer options.indentation depth fieldPrefix nodes)
          encoding) := by
  cases nodes with
  | nil => rfl
  | cons node nodes =>
      rw [renderNodes, outcome_bind, node_outcome options depth fieldPrefix node encoding, first_error_cons]
      cases firstError? node with
      | some e => rfl
      | none =>
          simp only [guarded, Except.bind, Option.none_or, outcome_bind,
            nodes_outcome options depth fieldPrefix nodes]
          cases (Node.leavesOf nodes).findSome? shapeError? <;> rfl
end

theorem root_prefix_irrelevant (transformer : Option (Transformer F)) (width : Nat) (root : Node F) :
    nodeFragment transformer width 0 root.fieldPrefix root = nodeFragment transformer width 0 none root := by
  cases root with
  | leaf leaf => rfl
  | group logic own nodes => rw [nodeFragment, nodeFragment]

theorem guarded_map {α β : Type} (failure : Option FilterError) (result : α) (f : α → β) :
    (guarded failure result).map f = guarded failure (f result) := by
  cases failure <;> rfl

theorem start_present {start : UInt64} (positive : 1 ≤ start) : start ≠ 0 := by
  rintro rfl
  exact absurd positive (by decide)

theorem render_inline_write (root : Node F) (options : RenderOptions F) :
    renderInline (some root) options =
      guarded (firstError? root) (some ((fragment options root).write .literal).1) := by
  have read : renderInline (some root) options =
      (outcome ((renderNode options 0 root.fieldPrefix root).run .literal)).map fun written => some written.1 := by
    rw [renderInline]
    cases (renderNode options 0 root.fieldPrefix root).run .literal <;> rfl
  rw [read, node_outcome, guarded_map, root_prefix_irrelevant]
  rfl

theorem render_inline_eq (root : Node F) (options : RenderOptions F) :
    renderInline (some root) options =
      guarded (firstError? root) (some (weave (fragment options root).gaps (fragment options root).literals)) := by
  rw [render_inline_write, Fragment.write_literal]

theorem render_parameterized_write (root : Node F) (options : RenderOptions F) (positive : options.start ≠ 0) :
    renderParameterized (some root) options =
      guarded (firstError? root)
        ⟨some ((fragment options root).write (.bound (.startingAt options.start))).1,
          ((fragment options root).write (.bound (.startingAt options.start))).2.values⟩ := by
  have read : renderParameterized (some root) options =
      (outcome ((renderNode options 0 root.fieldPrefix root).run (.bound (.startingAt options.start)))).map
        fun written => ⟨some written.1, written.2.values⟩ := by
    rw [renderParameterized, if_neg positive]
    cases (renderNode options 0 root.fieldPrefix root).run (.bound (.startingAt options.start)) <;> rfl
  rw [read, node_outcome, guarded_map, root_prefix_irrelevant]
  rfl

theorem render_parameterized_eq (root : Node F) (options : RenderOptions F) (positive : options.start ≠ 0) :
    renderParameterized (some root) options =
      guarded (firstError? root)
        ⟨some (weave (fragment options root).gaps (placeholders options.start (fragment options root).operands.length)),
          (fragment options root).operands⟩ := by
  rw [render_parameterized_write root options positive, Fragment.write_bound]
  simp [Encoding.values, Bindings.startingAt]

-- In a tree it sees the conditions one after another.
def placeView {α : Type} (transformer : Option (Transformer F)) (view : Piece → Option α) :
    Leaf F × Option String → List α := fun place =>
  (view (.left (left transformer place.1 place.2))).toList ++
    place.1.operands.filterMap fun value => view (.operand (isQuoted place.1) value)

mutual
theorem node_view {α : Type} (transformer : Option (Transformer F)) (width depth : Nat)
    (fieldPrefix : Option String) (view : Piece → Option α) (silent : ∀ s, view (.text s) = none) (node : Node F) :
    (nodeFragment transformer width depth fieldPrefix node).filterMap view =
      (node.placed fieldPrefix).flatMap (placeView transformer view) := by
  cases node with
  | leaf leaf =>
      rw [nodeFragment, List.filterMap_cons, List.filterMap_cons, silent, condition_view view silent]
      cases seen : view (.left (left transformer leaf fieldPrefix)) <;> simp [Node.placed, placeView, seen]
  | group logic own nodes =>
      rw [nodeFragment, List.filterMap_append, List.filterMap_cons, silent,
        Fragment.filter_map_intercalate view _ (silent _), nodes_view transformer width (depth + 1) own view silent]
      simp [Node.placed, silent]
theorem nodes_view {α : Type} (transformer : Option (Transformer F)) (width depth : Nat)
    (fieldPrefix : Option String) (view : Piece → Option α) (silent : ∀ s, view (.text s) = none)
    (nodes : List (Node F)) :
    (nodeFragments transformer width depth fieldPrefix nodes).flatMap (List.filterMap view) =
      (Node.placedOf fieldPrefix nodes).flatMap (placeView transformer view) := by
  cases nodes with
  | nil => rfl
  | cons node nodes =>
      rw [nodeFragments, List.flatMap_cons, node_view transformer width depth fieldPrefix view silent node,
        nodes_view transformer width depth fieldPrefix view silent nodes, Node.placedOf, List.flatMap_append]
end

theorem node_operands (transformer : Option (Transformer F)) (width depth : Nat) (fieldPrefix : Option String)
    (node : Node F) :
    (nodeFragment transformer width depth fieldPrefix node).operands = node.leaves.flatMap Leaf.operands := by
  rw [← Node.placed_leaves fieldPrefix, List.flatMap_map]
  refine (node_view _ _ _ _ Piece.operand? (fun _ => rfl) node).trans ?_
  unfold placeView
  simp [Piece.operand?]

theorem fragment_operands (options : RenderOptions F) (root : Node F) :
    (fragment options root).operands = root.leaves.flatMap Leaf.operands :=
  node_operands _ _ _ _ root

theorem fragment_lefts (options : RenderOptions F) (root : Node F) :
    (fragment options root).lefts = leftTokens options.transformer root := by
  refine (node_view _ _ _ _ Piece.left? (fun _ => rfl) root).trans ?_
  have noOperand (values : List Value) : values.filterMap (fun _ => (none : Option String)) = [] := by simp
  unfold placeView
  simp [Piece.left?, leftTokens, List.map_eq_flatMap, noOperand]

theorem fragment_literals (options : RenderOptions F) (root : Node F) :
    (fragment options root).literals =
      root.leaves.flatMap fun leaf => leaf.operands.map fun value => literal value (isQuoted leaf) := by
  rw [← Node.placed_leaves none, List.flatMap_map]
  refine (node_view _ _ _ _ Piece.literal? (fun _ => rfl) root).trans ?_
  unfold placeView
  simp [Piece.literal?]

end Sql

end SqlFilter
