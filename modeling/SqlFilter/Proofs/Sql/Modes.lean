import SqlFilter.Proofs.Sql.Tree

/-!
# Literals or placeholders

The two renderings of a tree have the same text around its operands. Where the one has a placeholder for an operand the
other has that operand as a literal.
-/

set_option autoImplicit false

namespace SqlFilter.Sql

variable {F : Type}

-- The operands of a condition read as text when it declares so, or when it declares nothing and its value is text.
def ReadsAsText (leaf : Leaf F) : Prop :=
  leaf.dataType = some .string ∨ leaf.dataType = some .epoch ∨ leaf.dataType = none ∧ leaf.value.dataType = .string

instance (leaf : Leaf F) : Decidable (ReadsAsText leaf) :=
  inferInstanceAs (Decidable (_ ∨ _ ∨ _ ∧ _))

def delimited (leaf : Leaf F) (value : Value) : String :=
  if ReadsAsText leaf then "'" ++ value.display ++ "'" else value.display

-- No value is an instant in time of itself, so dates are quoted on their own account only when declared.
theorem value_never_epoch (value : Value) : value.dataType ≠ .epoch := by
  fun_induction Value.dataType value <;> simp_all

theorem is_quoted_iff (leaf : Leaf F) : isQuoted leaf = true ↔ ReadsAsText leaf := by
  unfold isQuoted ReadsAsText
  cases declared : leaf.dataType with
  | some type => cases type <;> simp [DataType.isQuoted]
  | none =>
      have notEpoch := value_never_epoch leaf.value
      cases inferred : leaf.value.dataType <;> simp_all [DataType.isQuoted]

theorem literal_delimited (leaf : Leaf F) (value : Value) : literal value (isQuoted leaf) = delimited leaf value := by
  unfold literal delimited
  by_cases text : ReadsAsText leaf
  · rw [if_pos text, if_pos ((is_quoted_iff leaf).mpr text)]
  · rw [if_neg text, if_neg fun quoted => text ((is_quoted_iff leaf).mp quoted)]

variable [FieldName F]

/-- Both modes fail together, with one error; or both put their fillers into the same gaps: literals in one, numbers in
the other. Gaps and values are chosen before the start is. -/
theorem modes_agree (root : Node F) (options : RenderOptions F) :
    (∃ e, renderInline (some root) options = .error e ∧
      ∀ start, 1 ≤ start → renderParameterized (some root) { options with start } = .error e) ∨
    ∃ gaps values, gaps.length = values.length + 1 ∧ values = root.leaves.flatMap Leaf.operands ∧
      renderInline (some root) options =
        .ok (some (weave gaps (root.leaves.flatMap fun leaf => leaf.operands.map (delimited leaf)))) ∧
      ∀ start, 1 ≤ start →
        renderParameterized (some root) { options with start } =
          .ok ⟨some (weave gaps (placeholders start values.length)), values⟩ ∧
        (start.toNat + values.length ≤ 18446744073709551616 →
          placeholders start values.length =
            (List.range values.length).map fun i => "$" ++ (start.toNat + i).repr) := by
  have inline := render_inline_eq root options
  have bound (start : UInt64) (positive : 1 ≤ start) :=
    render_parameterized_eq root { options with start } (start_present positive)
  cases failure : firstError? root with
  | some e =>
      rw [failure] at inline
      simp only [failure] at bound
      exact .inl ⟨e, inline, bound⟩
  | none =>
      rw [failure, fragment_literals] at inline
      simp only [failure] at bound
      simp only [literal_delimited] at inline
      refine .inr ⟨(fragment options root).gaps, (fragment options root).operands, Fragment.gaps_length _,
        fragment_operands options root, inline, fun start positive => ⟨bound start positive, placeholders_fit⟩⟩

def declaredDates : Node String :=
  .leaf ⟨"day", .between, .array [.string "today", .int 1], some .epoch⟩

theorem modes_agree_on_dates :
    ∃ gaps, gaps.length = 3 ∧
      renderInline (some declaredDates) {} = .ok (some (weave gaps ["'today'", "'1'"])) ∧
      renderParameterized (some declaredDates) { start := 4 } =
        .ok ⟨some (weave gaps ["$4", "$5"]), [.string "today", .int 1]⟩ := by
  rcases modes_agree declaredDates {} with ⟨e, failed, _⟩ | ⟨gaps, values, count, operands, inline, bound⟩
  · cases failed
  · have literals : (declaredDates.leaves.flatMap fun leaf => leaf.operands.map (delimited leaf)) =
        ["'today'", "'1'"] := by
      decide +kernel
    rw [literals] at inline
    rw [operands] at count bound
    exact ⟨gaps, count, inline, (bound 4 (by decide)).1⟩

-- Two operands from the last number of the counter on are not numbered as counting goes on from there.
theorem dates_past_the_counter :
    renderParameterized (some declaredDates) { start := 18446744073709551615 } =
        .ok ⟨some "day between $18446744073709551615 and $0", [.string "today", .int 1]⟩ ∧
      ¬∃ gaps, gaps.length = 3 ∧ renderInline (some declaredDates) {} = .ok (some (weave gaps ["'today'", "'1'"])) ∧
        renderParameterized (some declaredDates) { start := 18446744073709551615 } =
          .ok ⟨some (weave gaps ["$18446744073709551615", "$18446744073709551616"]), [.string "today", .int 1]⟩ := by
  have bound : renderParameterized (some declaredDates) { start := 18446744073709551615 } =
      .ok ⟨some "day between $18446744073709551615 and $0", [.string "today", .int 1]⟩ := rfl
  have inline : renderInline (some declaredDates) {} = .ok (some "day between 'today' and '1'") := rfl
  refine ⟨bound, ?_⟩
  rintro ⟨gaps, count, literal, counted⟩
  obtain ⟨first, second, third, rfl⟩ : ∃ first second third, gaps = [first, second, third] :=
    match gaps, count with
    | [first, second, third], _ => ⟨first, second, third, rfl⟩
  have literalText := Option.some.inj (Except.ok.inj (inline.symm.trans literal))
  have countedText := Option.some.inj (BoundSql.mk.inj (Except.ok.inj (bound.symm.trans counted))).1
  -- The gaps are as long as the inline text leaves them, and with two full numbers the other text would be longer.
  have literalLength := congrArg String.length literalText
  have countedLength := congrArg String.length countedText
  simp only [weave, String.length_append] at literalLength countedLength
  have quoted : "day between 'today' and '1'".length = 27 ∧ "'today'".length = 7 ∧ "'1'".length = 3 := by decide
  have numbers : "day between $18446744073709551615 and $0".length = 40 ∧ "$18446744073709551615".length = 21 ∧
      "$18446744073709551616".length = 21 := by decide
  omega

end SqlFilter.Sql
