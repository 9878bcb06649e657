import SqlFilter.Sql.Render

/-!
# Filters with their field names written out

A filter over any type of fields has the JSON and the SQL of the filter over strings with the same field names.
-/

set_option autoImplicit false

namespace SqlFilter

variable {F : Type} [FieldName F]

-- A condition with its field replaced by the name that the field has in JSON.
def Leaf.spelled (leaf : Leaf F) : Leaf String :=
  ⟨FieldName.json leaf.field, leaf.op, leaf.value, leaf.dataType⟩

mutual
def Node.spelled : Node F → Node String
  | .leaf condition => .leaf condition.spelled
  | .group logic own nodes => .group logic own (spelledAll nodes)
def Node.spelledAll : List (Node F) → List (Node String)
  | [] => []
  | node :: nodes => spelled node :: spelledAll nodes
end

def Filter.spelled (filter : Filter F) : Filter String :=
  ⟨filter.root.map Node.spelled⟩

namespace Node

mutual
theorem spelled_to_json (node : Node F) : node.spelled.toJson = node.toJson := by
  cases node with
  | leaf condition => rfl
  | group logic own nodes =>
      rw [spelled]
      simp only [toJson, spelled_to_json_nodes nodes]
theorem spelled_to_json_nodes (nodes : List (Node F)) : toJsonNodes (spelledAll nodes) = toJsonNodes nodes := by
  cases nodes with
  | nil => rfl
  | cons node nodes => rw [spelledAll, toJsonNodes, toJsonNodes, spelled_to_json node, spelled_to_json_nodes nodes]
end

end Node

theorem Filter.spelled_to_json (filter : Filter F) : filter.spelled.toJson = filter.toJson := by
  obtain ⟨root⟩ := filter
  cases root with
  | none => rfl
  | some node => exact node.spelled_to_json

namespace Sql

-- Options for trees of spelled fields, as options for the fields themselves.
def RenderOptions.unspelled (F : Type) [FieldName F] (options : RenderOptions String) : RenderOptions F where
  transformer := options.transformer.map fun transform leaf fieldPrefix => transform leaf.spelled fieldPrefix
  indentation := options.indentation
  useParameters := options.useParameters
  start := options.start

-- Fields whose names are the same in SQL and in JSON.
section Named

variable (alike : ∀ field : F, FieldName.sql field = FieldName.json field)

include alike

theorem path_spelled (leaf : Leaf F) (fieldPrefix : Option String) :
    path leaf.spelled fieldPrefix = path leaf fieldPrefix := by
  rw [path, path, alike]
  rfl

theorem quote_identifiers_spelled (leaf : Leaf F) (fieldPrefix : Option String) :
    quoteIdentifiers leaf.spelled fieldPrefix = quoteIdentifiers leaf fieldPrefix := by
  rw [quoteIdentifiers, quoteIdentifiers, path_spelled alike]

-- Quoting asks for the name only, so it is the same for the fields and for their names.
theorem unspelled_quoting (options : RenderOptions String) :
    RenderOptions.unspelled F { options with transformer := some quoteIdentifiers } =
      { options.unspelled F with transformer := some quoteIdentifiers } := by
  rw [RenderOptions.unspelled, RenderOptions.unspelled, Option.map_some]
  congr 2
  funext leaf fieldPrefix
  exact quote_identifiers_spelled alike leaf fieldPrefix

theorem left_spelled (options : RenderOptions String) (leaf : Leaf F) (fieldPrefix : Option String) :
    left options.transformer leaf.spelled fieldPrefix =
      left (options.unspelled F).transformer leaf fieldPrefix := by
  rw [left, left, path_spelled alike, RenderOptions.unspelled]
  cases options.transformer <;> rfl

theorem condition_spelled (leaf : Leaf F) : condition leaf.spelled = condition leaf := by
  have shape (expected : String) : invalidShape leaf.spelled expected = invalidShape leaf expected := by
    rw [invalidShape, invalidShape, alike]
    rfl
  unfold condition
  simp only [shape]
  rfl

end Named

mutual
theorem node_spelled (alike : ∀ field : F, FieldName.sql field = FieldName.json field) (options : RenderOptions String)
    (depth : Nat) (fieldPrefix : Option String) (node : Node F) :
    renderNode options depth fieldPrefix node.spelled = renderNode (options.unspelled F) depth fieldPrefix node := by
  cases node with
  | leaf leaf => rw [Node.spelled, renderNode, renderNode, condition_spelled alike, left_spelled alike]
  | group logic own nodes =>
      rw [Node.spelled, renderNode, renderNode, nodes_spelled alike options (depth + 1) own nodes]
      rfl
theorem nodes_spelled (alike : ∀ field : F, FieldName.sql field = FieldName.json field)
    (options : RenderOptions String) (depth : Nat) (fieldPrefix : Option String) (nodes : List (Node F)) :
    renderNodes options depth fieldPrefix (Node.spelledAll nodes) =
      renderNodes (options.unspelled F) depth fieldPrefix nodes := by
  cases nodes with
  | nil => rfl
  | cons node nodes =>
      rw [Node.spelledAll, renderNodes, renderNodes, node_spelled alike options depth fieldPrefix node,
        nodes_spelled alike options depth fieldPrefix nodes]
end

theorem root_spelled (alike : ∀ field : F, FieldName.sql field = FieldName.json field) (options : RenderOptions String)
    (root : Node F) :
    renderNode options 0 root.spelled.fieldPrefix root.spelled =
      renderNode (options.unspelled F) 0 root.fieldPrefix root := by
  rw [node_spelled alike]
  cases root <;> rfl

end Sql

namespace Filter

variable (alike : ∀ field : F, FieldName.sql field = FieldName.json field) (filter : Filter F)
  (options : Sql.RenderOptions String)

include alike

theorem inline_spelled : filter.spelled.renderInline options = filter.renderInline (options.unspelled F) := by
  obtain ⟨root⟩ := filter
  cases root with
  | none => rfl
  | some root =>
      rw [renderInline, renderInline, spelled, Option.map_some, Sql.renderInline, Sql.renderInline,
        Sql.root_spelled alike]

theorem parameterized_spelled :
    filter.spelled.renderParameterized options = filter.renderParameterized (options.unspelled F) := by
  obtain ⟨root⟩ := filter
  cases root with
  | none => rfl
  | some root =>
      rw [renderParameterized, renderParameterized, spelled, Option.map_some, Sql.renderParameterized,
        Sql.renderParameterized, Sql.root_spelled alike]
      rfl

theorem render_spelled : filter.spelled.render options = filter.render (options.unspelled F) := by
  have inline := inline_spelled alike filter options
  have bound := parameterized_spelled alike filter options
  rw [renderInline, renderInline] at inline
  rw [renderParameterized, renderParameterized] at bound
  rw [render, render, Sql.render, Sql.render, inline, bound]
  rfl

end Filter

end SqlFilter
