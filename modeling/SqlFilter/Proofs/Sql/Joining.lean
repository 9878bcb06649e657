import Mathlib.Data.List.Forall2
import SqlFilter.Proofs.Sql.Shapes

/-!
# Joined filters

A join renders its trees one after the other under a new group, each from the number that the ones before it have left.
The first of them to fail is the error.
-/

set_option autoImplicit false

namespace SqlFilter

variable {F : Type}

def failureOf {α : Type} : Except FilterError α → Option FilterError
  | .error e => some e
  | .ok _ => none

theorem Filter.join_root (logic : Logic) (filters : List (Filter F)) :
    (join logic filters).root = some (.group logic none (filters.filterMap root)) := by
  simp [join, Node.join, List.filterMap_map]

-- Texts on one line, as the children of a group.
def Filter.enclosed (logic : Logic) (texts : List String) : String :=
  "(" ++ (" " ++ logic.sql ++ " ").intercalate texts ++ ")"

variable [FieldName F]

namespace Filter

-- Filters rendered one after another, each with the number that follows those of the filters before it.
def RenderInTurn (options : Sql.RenderOptions F) : Nat → List (Filter F) → List Sql.BoundSql → Prop
  | _, [], [] => True
  | start, filter :: filters, part :: parts =>
      filter.renderParameterized { options with start := .ofNat start } = .ok part ∧
        RenderInTurn options (start + part.values.length) filters parts
  | _, _, _ => False

-- Each tree starts with a number of its own that a start can be.
def StartsFit : Nat → List (Filter F) → Prop
  | _, [] => True
  | start, ⟨none⟩ :: filters => StartsFit start filters
  | start, ⟨some root⟩ :: filters =>
      start < 18446744073709551616 ∧ StartsFit (start + Leaf.operandTotal root.leaves) filters

/-- A filter renders as its parts do: it fails as the first of them that fails, or else has the texts of those that
are not empty and the values of all. -/
structure ComposedOf (logic : Logic) (options : Sql.RenderOptions F) (parts : List (Filter F)) (whole : Filter F) :
    Prop where
  fails (e : FilterError) :
    (parts.findSome? fun part => failureOf (part.renderParameterized options)) = some e →
      whole.renderParameterized options = .error e
  succeeds :
    (parts.findSome? fun part => failureOf (part.renderParameterized options)) = none →
      StartsFit options.start.toNat parts →
      ∃ results, RenderInTurn options options.start.toNat parts results ∧
        whole.renderParameterized options =
          .ok ⟨some (enclosed logic (results.filterMap Sql.BoundSql.sql)), results.flatMap Sql.BoundSql.values⟩
  fails_inline (e : FilterError) :
    (parts.findSome? fun part => failureOf (part.renderInline options)) = some e →
      whole.renderInline options = .error e
  succeeds_inline :
    (parts.findSome? fun part => failureOf (part.renderInline options)) = none →
      ∃ texts, List.Forall₂ (fun part text => part.renderInline options = .ok text) parts texts ∧
        whole.renderInline options = .ok (some (enclosed logic (texts.filterMap id)))

end Filter

namespace Sql

-- On one line no text tells how deep it stands.
mutual
theorem flat_node (transformer : Option (Transformer F)) (depth : Nat) (fieldPrefix : Option String) (node : Node F) :
    nodeFragment transformer 0 depth fieldPrefix node = nodeFragment transformer 0 0 fieldPrefix node := by
  cases node with
  | leaf leaf => rw [nodeFragment, nodeFragment]
  | group logic own nodes =>
      rw [nodeFragment, nodeFragment, flat_nodes transformer (depth + 1) own nodes,
        flat_nodes transformer (0 + 1) own nodes]
      rfl
theorem flat_nodes (transformer : Option (Transformer F)) (depth : Nat) (fieldPrefix : Option String)
    (nodes : List (Node F)) :
    nodeFragments transformer 0 depth fieldPrefix nodes = nodeFragments transformer 0 0 fieldPrefix nodes := by
  cases nodes with
  | nil => rfl
  | cons node nodes =>
      rw [nodeFragments, nodeFragments, flat_node transformer depth fieldPrefix node,
        flat_nodes transformer depth fieldPrefix nodes]
end

theorem flat_children (options : RenderOptions F) (flat : options.indentation = 0) (nodes : List (Node F)) :
    nodeFragments options.transformer options.indentation 1 none nodes = nodes.map (fragment options) := by
  rw [flat, flat_nodes]
  induction nodes with
  | nil => rfl
  | cons node nodes ih => rw [nodeFragments, ih, List.map_cons, fragment, flat]

theorem flat_group_write (options : RenderOptions F) (flat : options.indentation = 0) (logic : Logic)
    (nodes : List (Node F)) (encoding : Encoding) :
    (fragment options (.group logic none nodes)).write encoding =
      (Filter.enclosed logic (Fragment.writeAll (nodes.map (fragment options)) encoding).1,
        (Fragment.writeAll (nodes.map (fragment options)) encoding).2) := by
  rw [fragment, nodeFragment, flat_children options flat, flat, List.cons_append, Fragment.write, Fragment.write_append,
    Fragment.write_intercalate]
  simp [Fragment.write, Filter.enclosed, separator, indent, closing, String.append_assoc]

theorem first_error_group (logic : Logic) (own : Option String) (nodes : List (Node F)) :
    firstError? (.group logic own nodes) = nodes.findSome? firstError? := by
  rw [firstError?, Node.leaves]
  induction nodes with
  | nil => rfl
  | cons node nodes ih =>
      rw [first_error_cons, ih, List.findSome?_cons]
      cases firstError? node <;> rfl

theorem failure_of_guarded {α : Type} (failure : Option FilterError) (result : α) :
    failureOf (guarded failure result) = failure := by
  cases failure <;> rfl

theorem parameterized_failure (options : RenderOptions F) (positive : options.start ≠ 0) (filter : Filter F) :
    failureOf (filter.renderParameterized options) = filter.root.bind firstError? := by
  obtain ⟨_ | root⟩ := filter
  · rfl
  · exact (congrArg failureOf (render_parameterized_write root options positive)).trans (failure_of_guarded _ _)

theorem inline_failure (options : RenderOptions F) (filter : Filter F) :
    failureOf (filter.renderInline options) = filter.root.bind firstError? := by
  obtain ⟨_ | root⟩ := filter
  · rfl
  · exact (congrArg failureOf (render_inline_write root options)).trans (failure_of_guarded _ _)

-- Mode and layout have no say in whether a filter can be rendered, nor in what is wrong with it.
theorem render_failure (options : RenderOptions F) (positive : options.start ≠ 0) (filter : Filter F) :
    failureOf (filter.render options) = filter.root.bind firstError? := by
  have bound := parameterized_failure options positive filter
  have inline := inline_failure options filter
  rw [← bound] at inline
  unfold Filter.render render
  cases options.useParameters with
  | true =>
      rw [if_pos rfl, ← bound, Filter.renderParameterized]
      cases renderParameterized filter.root options <;> rfl
  | false =>
      rw [if_neg Bool.false_ne_true, ← bound, ← inline, Filter.renderInline]
      cases renderInline filter.root options <;> rfl

theorem render_misfit {options : RenderOptions F} (positive : options.start ≠ 0) {filter : Filter F}
    {cause : FilterError} (failed : filter.render options = .error cause) :
    ∃ field op expected, cause = .invalidShape field op expected := by
  have failure := render_failure options positive filter
  rw [failed] at failure
  obtain ⟨root, _, misshapen⟩ := Option.bind_eq_some_iff.mp failure.symm
  obtain ⟨_, leaf, _, _, _, rfl, _⟩ := (first_error_iff root cause).mp misshapen
  exact ⟨_, _, _, rfl⟩

theorem first_failure_present (filters : List (Filter F)) :
    (filters.findSome? fun filter => filter.root.bind firstError?) =
      (filters.filterMap Filter.root).findSome? firstError? := by
  induction filters with
  | nil => rfl
  | cons filter filters ih =>
      obtain ⟨_ | root⟩ := filter <;> simp [List.findSome?_cons, ih]

theorem sound_present (root : Node F) (filters : List (Filter F))
    (sound : ((⟨some root⟩ :: filters).filterMap Filter.root).findSome? firstError? = none) :
    firstError? root = none ∧ (filters.filterMap Filter.root).findSome? firstError? = none := by
  change (root :: filters.filterMap Filter.root).findSome? firstError? = none at sound
  rw [List.findSome?_cons] at sound
  cases failure : firstError? root with
  | some e => simp [failure] at sound
  | none => exact ⟨rfl, by simpa [failure] using sound⟩

-- The fragments of the trees, written one after another, are the trees rendered in turn: the store that a tree begins
-- with differs from a new one in the values it holds, which its text does not show.
theorem render_in_turn (options : RenderOptions F) (filters : List (Filter F))
    (sound : (filters.filterMap Filter.root).findSome? firstError? = none) (number : Nat) (positive : number ≠ 0)
    (fits : Filter.StartsFit number filters) (bound : Array Value) :
    ∃ results, Filter.RenderInTurn options number filters results ∧
      (Fragment.writeAll ((filters.filterMap Filter.root).map (fragment options)) (.bound ⟨.ofNat number, bound⟩)).1 =
        results.filterMap BoundSql.sql ∧
      (Fragment.writeAll ((filters.filterMap Filter.root).map (fragment options))
        (.bound ⟨.ofNat number, bound⟩)).2.values = bound.toList ++ results.flatMap BoundSql.values := by
  induction filters generalizing number bound with
  | nil => exact ⟨[], trivial, rfl, by simp [Fragment.writeAll, Encoding.values]⟩
  | cons filter filters ih =>
      obtain ⟨_ | root⟩ := filter
      · obtain ⟨results, rendered, written⟩ := ih sound number positive fits bound
        exact ⟨⟨none, []⟩ :: results, ⟨rfl, rendered⟩, written⟩
      · obtain ⟨ownSound, restSound⟩ := sound_present root filters sound
        obtain ⟨inRange, restFit⟩ := fits
        have start : UInt64.ofNat number ≠ 0 := fun zero => positive (by
          rw [← UInt64.toNat_ofNat_of_lt' inRange, zero, UInt64.toNat_zero])
        have own := render_parameterized_eq root { options with start := .ofNat number } start
        rw [ownSound] at own
        rw [Leaf.operandTotal, ← fragment_operands options root] at restFit
        obtain ⟨results, rendered, texts, values⟩ := ih restSound _ (by omega) restFit
          (bound ++ (fragment options root).operands)
        refine ⟨_ :: results, ⟨own, rendered⟩, ?_⟩
        change (Fragment.writeAll (fragment options root :: (filters.filterMap Filter.root).map (fragment options))
          _).1 = _ ∧ (Fragment.writeAll (fragment options root :: (filters.filterMap Filter.root).map
            (fragment options)) _).2.values = _
        rw [UInt64.ofNat_add] at texts values
        rw [Fragment.writeAll, Fragment.write_bound, texts, values]
        exact ⟨rfl, by simp [fragment]⟩

-- In literals there is nothing to thread.
theorem render_each_inline (options : RenderOptions F) (filters : List (Filter F))
    (sound : (filters.filterMap Filter.root).findSome? firstError? = none) :
    ∃ texts, List.Forall₂ (fun filter text => filter.renderInline options = .ok text) filters texts ∧
      Fragment.writeAll ((filters.filterMap Filter.root).map (fragment options)) .literal =
        (texts.filterMap id, .literal) := by
  induction filters with
  | nil => exact ⟨[], .nil, rfl⟩
  | cons filter filters ih =>
      obtain ⟨_ | root⟩ := filter
      · obtain ⟨texts, rendered, written⟩ := ih sound
        exact ⟨none :: texts, .cons rfl rendered, written⟩
      · obtain ⟨ownSound, restSound⟩ := sound_present root filters sound
        have own : renderInline (some root) options = .ok (some ((fragment options root).write .literal).1) := by
          rw [render_inline_write, ownSound]
          rfl
        obtain ⟨texts, rendered, written⟩ := ih restSound
        refine ⟨_ :: texts, .cons own rendered, ?_⟩
        change Fragment.writeAll (fragment options root :: (filters.filterMap Filter.root).map (fragment options)) _ = _
        rw [Fragment.writeAll, Fragment.write_literal]
        simp [written]

theorem join_first_error (logic : Logic) (filters : List (Filter F)) :
    firstError? (.group logic none (filters.filterMap Filter.root)) =
      filters.findSome? fun filter => filter.root.bind firstError? := by
  rw [first_error_group, first_failure_present]

theorem join_composed (options : RenderOptions F) (flat : options.indentation = 0) (positive : options.start ≠ 0)
    (logic : Logic) (filters : List (Filter F)) :
    Filter.ComposedOf logic options filters (.join logic filters) := by
  have bound := render_parameterized_write (.group logic none (filters.filterMap Filter.root)) options positive
  have inline := render_inline_write (.group logic none (filters.filterMap Filter.root)) options
  rw [flat_group_write options flat, join_first_error, ← Filter.join_root logic filters] at bound inline
  constructor
  · intro e failure
    simp only [parameterized_failure options positive] at failure
    rw [failure] at bound
    exact bound
  · intro sound fits
    simp only [parameterized_failure options positive] at sound
    rw [sound] at bound
    rw [first_failure_present] at sound
    obtain ⟨results, rendered, texts, values⟩ := render_in_turn options filters sound options.start.toNat
      (fun zero => positive (UInt64.toNat_inj.mp zero)) fits #[]
    rw [UInt64.ofNat_toNat] at texts values
    rw [Bindings.startingAt, texts, values] at bound
    exact ⟨results, rendered, bound⟩
  · intro e failure
    simp only [inline_failure] at failure
    rw [failure] at inline
    exact inline
  · intro sound
    simp only [inline_failure] at sound
    rw [sound] at inline
    rw [first_failure_present] at sound
    obtain ⟨texts, rendered, written⟩ := render_each_inline options filters sound
    rw [written] at inline
    exact ⟨texts, rendered, inline⟩

end Sql

namespace Filter

/-- On one line, to combine filters is to combine what they render as; a filter that is extended is combined with the
new tree. Wrapping a tree changes no prefix that its conditions see and nothing in its text. -/
theorem joining_composes_rendering (options : Sql.RenderOptions F) (flat : options.indentation = 0)
    (positive : 1 ≤ options.start) :
    (∀ logic filters, ComposedOf logic options filters (join logic filters)) ∧
      (∀ filter operand, ComposedOf .and options [filter, ⟨operand⟩] (addAnd filter operand)) ∧
      ∀ filter operand, ComposedOf .or options [filter, ⟨operand⟩] (addOr filter operand) := by
  have composed := Sql.join_composed options flat (Sql.start_present positive)
  exact ⟨composed, fun filter operand => composed .and [filter, ⟨operand⟩],
    fun filter operand => composed .or [filter, ⟨operand⟩]⟩

def prefixedGroup : Filter String :=
  ⟨some (.group .and (some "b.") [.leaf (.of "x" .between (.array [.int 1, .int 5])), .leaf (.of "y" .eq .null)])⟩

def emptyList (field : String) : Filter String :=
  ⟨some (.leaf (.of field .isIn (.array [])))⟩

theorem absent_and_failing_joined :
    StartsFit 3 [prefixedGroup, empty, prefixedGroup] ∧
      (∃ results, RenderInTurn { start := 3 } 3 [prefixedGroup, empty, prefixedGroup] results ∧
        (join .or [prefixedGroup, empty, prefixedGroup]).renderParameterized { start := 3 } =
          .ok ⟨some (enclosed .or (results.filterMap Sql.BoundSql.sql)), results.flatMap Sql.BoundSql.values⟩) ∧
      (join .and [prefixedGroup, emptyList "c", emptyList "d"]).renderInline { start := 3 } =
        .error (.invalidShape "c" .isIn "a non-empty array") ∧
      (addAnd prefixedGroup none).renderInline { start := 3 } =
        .ok (some "((b.x between 1 and 5 and b.y is null))") := by
  obtain ⟨joined, extended, _⟩ := joining_composes_rendering (F := String) { start := 3 } rfl (by decide)
  have fits : StartsFit 3 [prefixedGroup, empty, prefixedGroup] := And.intro (by decide) (And.intro (by decide) trivial)
  refine ⟨fits, (joined .or [prefixedGroup, empty, prefixedGroup]).succeeds rfl fits,
    (joined .and [prefixedGroup, emptyList "c", emptyList "d"]).fails_inline _ rfl, ?_⟩
  obtain ⟨texts, rendered, whole⟩ := (extended prefixedGroup none).succeeds_inline rfl
  rw [whole]
  cases rendered with
  | cons first others =>
      cases others with
      | cons second rest =>
          cases rest
          cases first
          cases second
          decide +kernel

def lastAndFirst : List (Filter String) :=
  [⟨some (.leaf (.of "a" .eq (.int 1)))⟩, ⟨some (.leaf (.of "b" .eq (.int 2)))⟩]

-- From the last number of the counter two filters can be joined, but no start is left for the second by itself.
theorem joined_past_the_counter :
    (join .and lastAndFirst).renderParameterized { start := 18446744073709551615 } =
        .ok ⟨some "(a = $18446744073709551615 and b = $0)", [.int 1, .int 2]⟩ ∧
      ¬∃ results, RenderInTurn { start := 18446744073709551615 } 18446744073709551615 lastAndFirst results := by
  refine ⟨by rfl, ?_⟩
  rintro ⟨_ | ⟨first, _ | ⟨second, others⟩⟩, rendered⟩
  · exact rendered
  · exact rendered.2
  · obtain ⟨alone, later, _⟩ := rendered
    cases alone
    cases later

end Filter

end SqlFilter
