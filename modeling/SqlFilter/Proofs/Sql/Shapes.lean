import SqlFilter.Proofs.Sql.Tree

/-!
# Values that an operator cannot take

Which conditions are misshapen is said from the operator and the value alone. Rendering fails at the first of them, in
either mode, whatever the options are.
-/

set_option autoImplicit false

namespace SqlFilter

namespace Operator

-- What an operator can be applied to. Null is not looked at here: it is tested for, whatever the operator.
def Takes : Operator → Value → Prop
  | .between, value => ∃ low high, value = .array [low, high]
  | .isIn, value => ∃ first others, value = .array (first :: others)
  | _, value => ∀ items, value ≠ .array items

def expectation : Operator → String
  | .between => "a 2-element array"
  | .isIn => "a non-empty array"
  | _ => "a single value"

end Operator

variable {F : Type}

def Leaf.Misshapen (leaf : Leaf F) : Prop :=
  leaf.value ≠ .null ∧ ¬ leaf.op.Takes leaf.value

namespace Sql

variable [FieldName F]

def misfit (leaf : Leaf F) : FilterError :=
  .invalidShape (FieldName.sql leaf.field) leaf.op leaf.op.expectation

/-- The error of the first condition that is misshapen. It tells of the condition alone and of nothing around it. -/
def FirstMisfit (leaves : List (Leaf F)) (e : FilterError) : Prop :=
  ∃ before leaf after, leaves = before ++ leaf :: after ∧ leaf.Misshapen ∧ e = misfit leaf ∧
    ∀ sound ∈ before, ¬ sound.Misshapen

theorem shape_error_iff (leaf : Leaf F) (e : FilterError) :
    shapeError? leaf = some e ↔ leaf.Misshapen ∧ e = misfit leaf := by
  obtain ⟨field, op, value, type⟩ := leaf
  unfold Leaf.Misshapen misfit
  cases value with
  | null => cases op <;> simp [shapeError?]
  | array items =>
      cases op with
      | between =>
          rcases items with _ | ⟨low, _ | ⟨high, _ | ⟨third, others⟩⟩⟩ <;>
            simp [shapeError?, Operator.Takes, Operator.expectation, invalidShape, eq_comm (a := e)]
      | isIn =>
          cases items <;> simp [shapeError?, Operator.Takes, Operator.expectation, invalidShape, eq_comm (a := e)]
      | _ => simp [shapeError?, Operator.Takes, Operator.expectation, invalidShape, eq_comm (a := e)]
  | _ =>
      cases op <;> simp [shapeError?, Operator.Takes, Operator.expectation, invalidShape, eq_comm (a := e)]

theorem shape_error_none_iff (leaf : Leaf F) : shapeError? leaf = none ↔ ¬ leaf.Misshapen := by
  constructor
  · intro sound misshapen
    have failure := (shape_error_iff leaf (misfit leaf)).mpr ⟨misshapen, rfl⟩
    rw [sound] at failure
    cases failure
  · intro sound
    cases failure : shapeError? leaf with
    | none => rfl
    | some e => exact absurd ((shape_error_iff leaf e).mp failure).1 sound

theorem first_error_iff (root : Node F) (e : FilterError) :
    firstError? root = some e ↔ FirstMisfit root.leaves e := by
  unfold firstError? FirstMisfit
  simp only [List.findSome?_eq_some_iff, shape_error_iff, shape_error_none_iff, and_assoc]

theorem first_error_exists_iff (root : Node F) :
    (∃ e, firstError? root = some e) ↔ ∃ leaf ∈ root.leaves, leaf.Misshapen := by
  constructor
  · rintro ⟨e, failure⟩
    obtain ⟨before, leaf, after, leaves, misshapen, _⟩ := (first_error_iff root e).mp failure
    exact ⟨leaf, by simp [leaves], misshapen⟩
  · rintro ⟨leaf, member, misshapen⟩
    cases failure : firstError? root with
    | some e => exact ⟨e, rfl⟩
    | none =>
        have sound := List.findSome?_eq_none_iff.mp failure leaf member
        exact absurd misshapen ((shape_error_none_iff leaf).mp sound)

theorem guarded_error_iff {α : Type} (failure : Option FilterError) (result : α) (e : FilterError) :
    guarded failure result = .error e ↔ failure = some e := by
  cases failure <;> simp [guarded]

/-- Where there is nothing to render nothing fails, and placeholders cannot be numbered from zero. Everything else
that can go wrong is a misshapen condition, and the first of them is the error: no way of rendering has a say in it.
-/
theorem first_misfit_is_the_error (options : RenderOptions F) :
    renderInline none options = .ok none ∧ renderParameterized none options = .ok ⟨none, []⟩ ∧
      ∀ root : Node F,
        (options.start = 0 →
          renderParameterized (some root) options = .error (.invalidOption FilterError.zeroStart)) ∧
        ((∃ e, renderInline (some root) options = .error e) ↔ ∃ leaf ∈ root.leaves, leaf.Misshapen) ∧
        (∀ e, renderInline (some root) options = .error e ↔ FirstMisfit root.leaves e) ∧
        (options.start ≠ 0 →
          ((∃ e, renderParameterized (some root) options = .error e) ↔ ∃ leaf ∈ root.leaves, leaf.Misshapen) ∧
          ∀ e, renderParameterized (some root) options = .error e ↔ FirstMisfit root.leaves e) := by
  refine ⟨rfl, rfl, fun root => ⟨fun zero => ?_, ?_, fun e => ?_, fun positive => ⟨?_, fun e => ?_⟩⟩⟩
  · rw [renderParameterized, if_pos zero]
  · simp only [render_inline_write, guarded_error_iff, first_error_exists_iff]
  · rw [render_inline_write, guarded_error_iff, first_error_iff]
  · simp only [render_parameterized_write root options positive, guarded_error_iff, first_error_exists_iff]
  · rw [render_parameterized_write root options positive, guarded_error_iff, first_error_iff]

-- A null test passes with any operator; of two misshapen conditions the second stands further out.
def twoMisfits : Node String :=
  .group .or (some "p.") [.leaf (.of "gone" .isIn .null),
    .group .and none [.leaf ⟨"day", .between, .array [.int 1], some .epoch⟩], .leaf (.of "id" .eq (.array []))]

theorem two_misfits_named :
    renderParameterized (some twoMisfits) { start := 0 } = .error (.invalidOption FilterError.zeroStart) ∧
      renderInline (some twoMisfits) { start := 0 } = .error (.invalidShape "day" .between "a 2-element array") ∧
      renderParameterized (some twoMisfits) { transformer := some quoteIdentifiers, indentation := 2, start := 7 } =
        .error (.invalidShape "day" .between "a 2-element array") := by
  have first : FirstMisfit twoMisfits.leaves (.invalidShape "day" .between "a 2-element array") := by
    refine ⟨[.of "gone" .isIn .null], _, _, rfl, ⟨nofun, ?_⟩, rfl, ?_⟩
    · rintro ⟨low, high, same⟩
      cases same
    · intro leaf member misshapen
      rw [List.mem_singleton.mp member] at misshapen
      exact misshapen.1 rfl
  obtain ⟨_, _, fromZero⟩ := first_misfit_is_the_error (F := String) { start := 0 }
  obtain ⟨zero, _, inline, _⟩ := fromZero twoMisfits
  obtain ⟨_, _, quoted⟩ := first_misfit_is_the_error (F := String)
    { transformer := some quoteIdentifiers, indentation := 2, start := 7 }
  obtain ⟨_, _, _, bound⟩ := quoted twoMisfits
  exact ⟨zero rfl, (inline _).mpr first, ((bound (by decide)).2 _).mpr first⟩

end Sql

end SqlFilter
