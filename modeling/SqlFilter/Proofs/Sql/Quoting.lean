import SqlFilter.Proofs.Sql.Modes
import SqlFilter.Proofs.Sql.Shapes

/-!
# Which operands are quoted

One decision is made for a condition: by its declared type, or else by the first of its operands. The other operands
are quoted, or left bare, as that one is.
-/

set_option autoImplicit false

namespace SqlFilter

namespace Value

def isText : Value → Bool
  | .string _ => true
  | _ => false

-- A list is led by its first item, and that by its own first item if it is a list again.
def isLedByText : Value → Bool
  | .string _ => true
  | .array (first :: _) => isLedByText first
  | _ => false

theorem data_type_quoted (value : Value) : value.dataType.isQuoted = value.isLedByText := by
  fun_induction Value.dataType value <;> first | rfl | assumption

end Value

namespace Sql

variable {F : Type}

-- The right-hand side of a condition whose operands have been written.
def comparison (op : Operator) (operands : List String) : String :=
  opening op false ++ (glue op).intercalate operands ++ if op = .isIn then ")" else ""

mutual
-- The text of a tree whose conditions are written in a given way.
def framed (write : Leaf F → Option String → String) (width depth : Nat) (fieldPrefix : Option String) : Node F → String
  | .leaf leaf => write leaf fieldPrefix
  | .group logic own nodes =>
      "(" ++ indent (depth + 1) width ++
        (separator logic (depth + 1) width).intercalate (framedAll write width (depth + 1) own nodes) ++
        closing (depth + 1) width ++ ")"
def framedAll (write : Leaf F → Option String → String) (width depth : Nat) (fieldPrefix : Option String) :
    List (Node F) → List String
  | [] => []
  | node :: nodes => framed write width depth fieldPrefix node :: framedAll write width depth fieldPrefix nodes
end

theorem operands_written (quoted : Bool) (operands : List Value) :
    Fragment.writeAll (operands.map fun value => [.operand quoted value]) .literal =
      (operands.map fun value => literal value quoted, .literal) := by
  induction operands with
  | nil => rfl
  | cons value operands ih => simp [Fragment.writeAll, Fragment.write, Encoding.take, ih]

theorem comparison_written (leaf : Leaf F) (present : leaf.value.isNull = false) :
    (conditionFragment leaf).write .literal =
      (comparison leaf.op (leaf.operands.map fun value => literal value (isQuoted leaf)), .literal) := by
  rw [conditionFragment, List.cons_append, Fragment.write, Fragment.write_append, Fragment.write_intercalate,
    operands_written, present, comparison, ending]
  by_cases list : leaf.op = .isIn <;> simp [list, Fragment.write, String.append_assoc]

-- One decision for a whole condition, whichever of its operands it is about.
def firstOperand (leaf : Leaf F) (_ : Value) : Bool :=
  leaf.operands.head?.any Value.isLedByText

theorem undeclared_quoted (leaf : Leaf F) (undeclared : leaf.dataType = none) (sound : ¬leaf.Misshapen)
    (present : leaf.value ≠ .null) : isQuoted leaf = leaf.operands.head?.any Value.isLedByText := by
  have takes : leaf.op.Takes leaf.value := Classical.not_not.mp fun refused => sound ⟨present, refused⟩
  have inferred : isQuoted leaf = leaf.value.isLedByText := by
    rw [isQuoted, undeclared, Option.getD_none, Value.data_type_quoted]
  rw [inferred]
  obtain ⟨field, op, value, type⟩ := leaf
  cases op with
  | between =>
      obtain ⟨low, high, rfl⟩ := takes
      rfl
  | isIn =>
      obtain ⟨first, others, rfl⟩ := takes
      rfl
  | _ => cases value <;> first | exact absurd rfl present | exact absurd rfl (takes _) | rfl

variable [FieldName F]

def inlineCondition (transformer : Option (Transformer F)) (leaf : Leaf F) (fieldPrefix : Option String) : String :=
  left transformer leaf fieldPrefix ++ " " ++ ((conditionFragment leaf).write .literal).1

mutual
theorem node_framed (transformer : Option (Transformer F)) (width depth : Nat) (fieldPrefix : Option String)
    (node : Node F) :
    (nodeFragment transformer width depth fieldPrefix node).write .literal =
      (framed (inlineCondition transformer) width depth fieldPrefix node, .literal) := by
  cases node with
  | leaf leaf =>
      rw [nodeFragment, Fragment.write, Fragment.write, framed, inlineCondition, Fragment.write_literal,
        String.append_assoc]
  | group logic own nodes =>
      have children := nodes_framed transformer width (depth + 1) own nodes
      simp [nodeFragment, Fragment.write, Fragment.write_append, Fragment.write_intercalate, children, framed,
        String.append_assoc]
theorem nodes_framed (transformer : Option (Transformer F)) (width depth : Nat) (fieldPrefix : Option String)
    (nodes : List (Node F)) :
    Fragment.writeAll (nodeFragments transformer width depth fieldPrefix nodes) .literal =
      (framedAll (inlineCondition transformer) width depth fieldPrefix nodes, .literal) := by
  cases nodes with
  | nil => rfl
  | cons node nodes =>
      rw [nodeFragments, Fragment.writeAll, node_framed transformer width depth fieldPrefix node,
        nodes_framed transformer width depth fieldPrefix nodes, framedAll]
end

/-- The inline SQL of a tree, in which a rule decides about each operand of the conditions that declare no type: it
stands between single quotes or is bare. -/
def QuotedBy (rule : Leaf F → Value → Bool) (options : RenderOptions F) (root : Node F) : Prop :=
  ∃ write : Leaf F → Option String → String,
    renderInline (some root) options = .ok (some (framed write options.indentation 0 none root)) ∧
      ∀ place ∈ root.placed none, place.1.dataType = none → place.1.value ≠ .null →
        write place.1 place.2 = left options.transformer place.1 place.2 ++ " " ++
          comparison place.1.op (place.1.operands.map fun value =>
            if rule place.1 value = true then "'" ++ value.display ++ "'" else value.display)

theorem quoted_by_of_agreement (rule : Leaf F → Value → Bool) (options : RenderOptions F) (root : Node F)
    (sound : ∀ leaf ∈ root.leaves, ¬leaf.Misshapen)
    (agrees : ∀ leaf ∈ root.leaves, leaf.dataType = none → leaf.value ≠ .null →
      ∀ value ∈ leaf.operands, rule leaf value = isQuoted leaf) : QuotedBy rule options root := by
  have noError : firstError? root = none :=
    List.findSome?_eq_none_iff.mpr fun leaf member => (shape_error_none_iff leaf).mpr (sound leaf member)
  refine ⟨inlineCondition options.transformer, ?_, ?_⟩
  · rw [render_inline_write, noError, fragment, node_framed]
    rfl
  · intro place member undeclared present
    have inTree : place.1 ∈ root.leaves := by
      rw [← Node.placed_leaves none root]
      exact List.mem_map_of_mem member
    have notNull : place.1.value.isNull = false := by
      cases held : place.1.value <;> first | exact absurd held present | rfl
    have literals : (place.1.operands.map fun value => literal value (isQuoted place.1)) =
        place.1.operands.map fun value =>
          if rule place.1 value = true then "'" ++ value.display ++ "'" else value.display :=
      List.map_congr_left fun value operand => by rw [literal, agrees place.1 inTree undeclared present value operand]
    rw [inlineCondition, comparison_written place.1 notNull, literals]

/-- Without a declared type the first operand of a condition has all of them quoted or none: text is bare behind a
number and null is quoted behind a text. -/
theorem first_operand_decides_quotes (options : RenderOptions F) (root : Node F)
    (sound : ∀ leaf ∈ root.leaves, ¬leaf.Misshapen) : QuotedBy firstOperand options root := by
  apply quoted_by_of_agreement firstOperand options root sound
  intro leaf member undeclared present _ _
  exact (undeclared_quoted leaf undeclared (sound leaf member) present).symm

def mixedRow : Node String :=
  .group .or (some "r.") [.leaf (.of "tag" .isIn (.array [.string "a", .null, .int 2])),
    .leaf ⟨"day", .between, .array [.int 1, .int 2], some .epoch⟩,
    .leaf (.of "size" .between (.array [.int 5, .string "wide"])), .leaf (.of "name" .like (.string "%z"))]

theorem mixed_row_quoted_by_first :
    (∀ leaf ∈ mixedRow.leaves, ¬leaf.Misshapen) ∧ QuotedBy firstOperand { indentation := 2 } mixedRow ∧
      renderInline (some mixedRow) { indentation := 2 } = .ok (some ("(\n  r.tag in ('a', 'null', '2')\n  " ++
        "or r.day between '1' and '2'\n  or r.size between 5 and wide\n  or r.name like '%z'\n)")) := by
  have sound : ∀ leaf ∈ mixedRow.leaves, ¬leaf.Misshapen := by
    intro leaf member
    rw [← shape_error_none_iff]
    simp only [mixedRow, Node.leaves, Node.leavesOf, List.cons_append, List.nil_append, List.append_nil,
      List.mem_cons, List.not_mem_nil, or_false] at member
    rcases member with rfl | rfl | rfl | rfl <;> rfl
  exact ⟨sound, first_operand_decides_quotes { indentation := 2 } mixedRow sound, rfl⟩

def numberBeforeText : Node String :=
  .leaf (.of "f" .isIn (.array [.int 1, .string "x"]))

-- Each operand cannot be quoted for itself.
theorem operands_not_quoted_apart :
    (∀ leaf ∈ numberBeforeText.leaves, ¬leaf.Misshapen) ∧
      renderInline (some numberBeforeText) {} = .ok (some "f in (1, x)") ∧
      ¬QuotedBy (fun _ value => value.isText) {} numberBeforeText := by
  have rendered : renderInline (some numberBeforeText) {} = .ok (some "f in (1, x)") := rfl
  refine ⟨?_, rendered, ?_⟩
  · intro leaf member
    rw [List.mem_singleton.mp member, ← shape_error_none_iff]
    rfl
  · rintro ⟨write, written, apart⟩
    have condition := apart (.of "f" .isIn (.array [.int 1, .string "x"]), none) List.mem_cons_self rfl nofun
    have text : framed write 0 0 none numberBeforeText = "f in (1, 'x')" := condition.trans (by decide +kernel)
    rw [written, text] at rendered
    exact absurd (Option.some.inj (Except.ok.inj rendered)) (by decide)

theorem text_leads {value : Value} (text : value.isText = true) : value.isLedByText = true := by
  cases value <;> first | rfl | cases text

-- Where the operands of each condition are all texts, or none of them is led by one, it makes no difference.
theorem alike_operands_quoted_apart (options : RenderOptions F) (root : Node F)
    (sound : ∀ leaf ∈ root.leaves, ¬leaf.Misshapen)
    (alike : ∀ leaf ∈ root.leaves, (∀ value ∈ leaf.operands, value.isText = true) ∨
      ∀ value ∈ leaf.operands, value.isLedByText = false) :
    QuotedBy (fun _ value => value.isText) options root := by
  apply quoted_by_of_agreement _ options root sound
  intro leaf member undeclared present value operand
  rw [undeclared_quoted leaf undeclared (sound leaf member) present]
  obtain ⟨first, others, operands⟩ := List.exists_cons_of_ne_nil (List.ne_nil_of_mem operand)
  have leads : first ∈ leaf.operands := by simp [operands]
  rw [operands, List.head?_cons, Option.any_some]
  rcases alike leaf member with texts | bare
  · rw [texts value operand, text_leads (texts first leads)]
  · rw [bare first leads]
    exact Bool.eq_false_iff.mpr fun text => absurd (text_leads text) (by simp [bare value operand])

end Sql

end SqlFilter
