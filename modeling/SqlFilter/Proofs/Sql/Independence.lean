import SqlFilter.Proofs.Sql.Outline

/-!
# Values do not reach the text

Filters that differ in the content of their values only have the same SQL with placeholders, or the same error.
-/

set_option autoImplicit false

namespace SqlFilter

/-- Values that differ in content only: both null, both lists of one length, or both neither. -/
def Value.Corresponds : Value → Value → Prop
  | .null, .null => True
  | .array xs, .array ys => xs.length = ys.length
  | .null, _ | _, .null | .array _, _ | _, .array _ => False
  | _, _ => True

variable {F : Type}

/-- Declared types play no part in it. -/
def Leaf.Corresponds (leaf other : Leaf F) : Prop :=
  leaf.field = other.field ∧ leaf.op = other.op ∧ leaf.value.Corresponds other.value

mutual
inductive Node.Corresponds : Node F → Node F → Prop where
  | leaf {leaf other : Leaf F} (alike : leaf.Corresponds other) : Corresponds (.leaf leaf) (.leaf other)
  | group {logic : Logic} {own : Option String} {nodes others : List (Node F)} (alike : AllCorrespond nodes others) :
      Corresponds (.group logic own nodes) (.group logic own others)
inductive Node.AllCorrespond : List (Node F) → List (Node F) → Prop where
  | nil : AllCorrespond [] []
  | cons {node other : Node F} {nodes others : List (Node F)} (head : Corresponds node other)
      (tail : AllCorrespond nodes others) : AllCorrespond (node :: nodes) (other :: others)
end

theorem Value.corresponds_null {value other : Value} (alike : value.Corresponds other) :
    value.isNull = other.isNull := by
  cases value <;> cases other <;> first | rfl | exact alike.elim

theorem Leaf.corresponds_operands {leaf other : Leaf F} (alike : leaf.Corresponds other) :
    leaf.operands.length = other.operands.length := by
  obtain ⟨field, op, value, type⟩ := leaf
  obtain ⟨otherField, otherOp, otherValue, otherType⟩ := other
  obtain ⟨_, rfl, values⟩ := alike
  cases value <;> cases otherValue <;> first | exact values.elim | cases op <;> first | rfl | exact values

namespace Sql

mutual
theorem corresponds_outline {α : Type} (view : Leaf F → Option String → α)
    (blind : ∀ leaf other fieldPrefix, leaf.field = other.field → view leaf fieldPrefix = view other fieldPrefix)
    (fieldPrefix : Option String) (node other : Node F) (alike : node.Corresponds other) :
    outline view fieldPrefix node = outline view fieldPrefix other := by
  cases alike with
  | leaf alike =>
      rw [outline, outline, blind _ _ fieldPrefix alike.1, alike.2.1, Value.corresponds_null alike.2.2,
        Leaf.corresponds_operands alike]
  | group alike => rw [outline, outline, corresponds_outlines view blind _ _ _ alike]
theorem corresponds_outlines {α : Type} (view : Leaf F → Option String → α)
    (blind : ∀ leaf other fieldPrefix, leaf.field = other.field → view leaf fieldPrefix = view other fieldPrefix)
    (fieldPrefix : Option String) (nodes others : List (Node F)) (alike : Node.AllCorrespond nodes others) :
    outlines view fieldPrefix nodes = outlines view fieldPrefix others := by
  cases alike with
  | nil => rfl
  | cons head tail =>
      rw [outlines, outlines, corresponds_outline view blind fieldPrefix _ _ head,
        corresponds_outlines view blind fieldPrefix _ _ tail]
end

variable [FieldName F]

-- Only the field, the operator, and how many items a list has enter the error of a condition.
theorem corresponds_shape_error {leaf other : Leaf F} (alike : leaf.Corresponds other) :
    shapeError? leaf = shapeError? other := by
  obtain ⟨field, op, value, type⟩ := leaf
  obtain ⟨otherField, otherOp, otherValue, otherType⟩ := other
  obtain ⟨rfl, rfl, values⟩ := alike
  cases value with
  | array items =>
      cases otherValue with
      | array others =>
          have lengths : items.length = others.length := values
          cases op with
          | between =>
              rcases items with _ | ⟨low, _ | ⟨high, _ | ⟨third, items⟩⟩⟩ <;>
                rcases others with _ | ⟨otherLow, _ | ⟨otherHigh, _ | ⟨otherThird, others⟩⟩⟩ <;>
                first | rfl | simp at lengths
          | isIn => cases items <;> cases others <;> simp_all [shapeError?, invalidShape]
          | _ => simp [shapeError?, invalidShape]
      | _ => exact values.elim
  | _ => cases otherValue <;> first | exact values.elim | cases op <;> rfl

mutual
theorem corresponds_first_error (node other : Node F) (alike : node.Corresponds other) :
    firstError? node = firstError? other := by
  cases alike with
  | leaf alike => rw [first_error_leaf, first_error_leaf, corresponds_shape_error alike]
  | group alike => exact corresponds_first_errors _ _ alike
theorem corresponds_first_errors (nodes others : List (Node F)) (alike : Node.AllCorrespond nodes others) :
    (Node.leavesOf nodes).findSome? shapeError? = (Node.leavesOf others).findSome? shapeError? := by
  cases alike with
  | nil => rfl
  | cons head tail =>
      rw [first_error_cons, first_error_cons, corresponds_first_error _ _ head, corresponds_first_errors _ _ tail]
end

theorem left_blind (transformer : Option (Transformer F))
    (standard : transformer = none ∨ transformer = some quoteIdentifiers) (leaf other : Leaf F)
    (fieldPrefix : Option String) (field : leaf.field = other.field) :
    left transformer leaf fieldPrefix = left transformer other fieldPrefix := by
  have paths : path leaf fieldPrefix = path other fieldPrefix := by
    unfold path
    rw [field]
  rcases standard with rfl | rfl
  · exact paths
  · simp [left, quoteIdentifiers, paths]

theorem corresponds_fragment (root other : Node F) (options : RenderOptions F)
    (standard : options.transformer = none ∨ options.transformer = some quoteIdentifiers)
    (alike : root.Corresponds other) :
    (fragment options root).strip id = (fragment options other).strip id := by
  have written (node : Node F) : (fragment options node).strip id =
      (outline (left options.transformer) none node).fragment id options.indentation 0 :=
    node_strip options.transformer id (left options.transformer) id (fun _ _ => rfl) options.indentation 0 none node
  rw [written, written, corresponds_outline _ (left_blind options.transformer standard) none root other alike]

/-- What a value holds never reaches the SQL text, nor the choice of an error: of each condition they can show whether
its value is null and how many items a list has. A start of zero is an error for every tree. -/
theorem values_never_reach_the_text (root other : Node F) (options : RenderOptions F)
    (standard : options.transformer = none ∨ options.transformer = some quoteIdentifiers)
    (alike : root.Corresponds other) :
    (∃ e, renderParameterized (some root) options = .error e ∧ renderParameterized (some other) options = .error e) ∨
      ∃ sql values otherValues, renderParameterized (some root) options = .ok ⟨some sql, values⟩ ∧
        renderParameterized (some other) options = .ok ⟨some sql, otherValues⟩ ∧
        values.length = otherValues.length := by
  by_cases zero : options.start = 0
  · have refused (node : Node F) :
        renderParameterized (some node) options = .error (.invalidOption FilterError.zeroStart) := by
      rw [renderParameterized, if_pos zero]
    exact .inl ⟨_, refused root, refused other⟩
  · have stripped := corresponds_fragment root other options standard alike
    have gaps := congrArg Fragment.gaps stripped
    have count := congrArg (fun fragment => (Fragment.operands fragment).length) stripped
    rw [Fragment.gaps_strip, Fragment.gaps_strip] at gaps
    simp only [Fragment.operand_count_strip] at count
    rw [render_parameterized_eq root options zero, render_parameterized_eq other options zero, gaps, count,
      corresponds_first_error root other alike]
    cases firstError? other with
    | some e => exact .inl ⟨e, rfl, rfl⟩
    | none => exact .inr ⟨_, _, _, rfl, rfl, count⟩

def namedFilter : Node String :=
  .group .or (some "u.") [.leaf (.of "name" .isIn (.array [.string "' or 1=1", .null])),
    .group .and none [.leaf (.of "age" .gt (.int 7)), .leaf (.of "gone" .eq .null)]]

def numberedFilter : Node String :=
  .group .or (some "u.") [.leaf ⟨"name", .isIn, .array [.array [.int 1], .bool true], some .numeric⟩,
    .group .and none [.leaf ⟨"age", .gt, .string "$9", some .epoch⟩, .leaf ⟨"gone", .eq, .null, some .string⟩]]

theorem other_values_same_text :
    ∃ sql values otherValues, renderParameterized (some namedFilter) { indentation := 2, start := 5 } =
        .ok ⟨some sql, values⟩ ∧
      renderParameterized (some numberedFilter) { indentation := 2, start := 5 } = .ok ⟨some sql, otherValues⟩ ∧
      values.length = otherValues.length := by
  have alike : namedFilter.Corresponds numberedFilter :=
    .group (.cons (.leaf ⟨rfl, rfl, rfl⟩)
      (.cons (.group (.cons (.leaf ⟨rfl, rfl, trivial⟩) (.cons (.leaf ⟨rfl, rfl, trivial⟩) .nil))) .nil))
  rcases values_never_reach_the_text namedFilter numberedFilter { indentation := 2, start := 5 } (.inl rfl) alike with
    ⟨e, failed, _⟩ | same
  · cases failed
  · exact same

end Sql

end SqlFilter
