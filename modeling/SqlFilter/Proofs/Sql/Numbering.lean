import SqlFilter.Proofs.Sql.Punctuation

/-!
# Numbers of placeholders

The dollar signs in a parameterized SQL count up from the start, one for each bound value, as far as the counter has
room.
-/

set_option autoImplicit false

namespace SqlFilter.Sql

-- Every dollar sign of a text with all the digits that follow it, from left to right. One that stands alone counts too.
def dollarTokens : List Char → List String
  | [] => []
  | c :: rest =>
      if c = '$' then String.ofList ('$' :: rest.takeWhile Char.isDigit) :: dollarTokens rest else dollarTokens rest

theorem dollar_tokens_skip (plain rest : List Char) (free : '$' ∉ plain) :
    dollarTokens (plain ++ rest) = dollarTokens rest := by
  induction plain with
  | nil => rfl
  | cons c plain ih =>
      have other : c ≠ '$' := fun same => free (same ▸ List.mem_cons_self)
      rw [List.cons_append, dollarTokens, if_neg other]
      exact ih fun member => free (List.mem_cons_of_mem _ member)

theorem dollar_tokens_placeholder (number : UInt64) (rest : List Char)
    (breaks : ∀ c, rest.head? = some c → c.isDigit = false) :
    dollarTokens ((placeholder number).toList ++ rest) = placeholder number :: dollarTokens rest := by
  have free : '$' ∉ Nat.toDigits 10 number.toNat := by
    intro member
    exact absurd (digit_of_mem number.toNat _ member) (by decide)
  rw [placeholder_chars, List.cons_append, dollarTokens, if_pos rfl, digits_exact number.toNat rest breaks,
    dollar_tokens_skip _ _ free, ← placeholder_chars, String.ofList_toList]

namespace Fragment

theorem breaks_written (fragment : Fragment) (breaks : fragment.Breaks) (encoding : Encoding) :
    ∀ c, (fragment.write encoding).1.toList.head? = some c → c.isDigit = false := by
  intro c first
  cases fragment with
  | nil => simp [write] at first
  | cons piece rest =>
      cases piece with
      | text s =>
          obtain ⟨d, tail, chars, noDigit⟩ := breaks
          have same : d = c := by simpa [write, chars] using first
          exact same ▸ noDigit
      | left s | operand quoted value => exact breaks.elim

-- The order of appearance is the order of binding: by induction on the fragment, over every store.
theorem dollar_tokens_written (fragment : Fragment) (plain : fragment.Plain) (delimited : fragment.Delimited)
    (free : ∀ token ∈ fragment.lefts, '$' ∉ token.toList) (store : Bindings) :
    dollarTokens (fragment.write (.bound store)).1.toList = placeholders store.next fragment.operands.length := by
  induction fragment generalizing store with
  | nil => rfl
  | cons piece rest ih =>
      have restPlain : Plain rest := fun s member => plain s (List.mem_cons_of_mem _ member)
      cases piece with
      | text s =>
          have silent : '$' ∉ s.toList := fun member => plain s List.mem_cons_self '$' member (by decide)
          rw [write, String.toList_append, dollar_tokens_skip _ _ silent]
          exact ih restPlain delimited free store
      | left s =>
          rw [write, String.toList_append, dollar_tokens_skip _ _ (free s List.mem_cons_self)]
          exact ih restPlain delimited.2 (fun token member => free token (List.mem_cons_of_mem _ member)) store
      | operand quoted value =>
          have breaks := breaks_written rest delimited.1 (.bound (store.bind value).2)
          simp only [write, Encoding.take, String.toList_append]
          rw [Bindings.bind] at breaks ⊢
          rw [dollar_tokens_placeholder _ _ breaks, ih restPlain delimited.2 free]
          simp [operands, Piece.operand?, placeholders_succ]

end Fragment

variable {F : Type} [FieldName F]

theorem rendered_parameterized {root : Node F} {options : RenderOptions F} {result : BoundSql}
    (rendered : renderParameterized (some root) options = .ok result) :
    options.start ≠ 0 ∧ firstError? root = none ∧
      result.sql = some (Fragment.write (fragment options root) (.bound (.startingAt options.start))).1 ∧
      result.values = root.leaves.flatMap Leaf.operands := by
  have positive : options.start ≠ 0 := by
    intro zero
    simp [renderParameterized, zero] at rendered
  rw [render_parameterized_eq root options positive] at rendered
  cases failure : firstError? root with
  | some e => simp [failure, guarded] at rendered
  | none =>
      rw [failure] at rendered
      cases rendered
      exact ⟨positive, rfl, by rw [Fragment.write_bound]; rfl, fragment_operands options root⟩

/-- Every dollar sign of the SQL belongs to a placeholder, and the placeholders are numbered on from the start in the
order of the operands: by counting as long as the counter has room, and from zero again after its last number. A start
of zero is refused, so a rendering that succeeds has a start of one at least. -/
theorem placeholders_number_the_operands (root : Node F) (options : RenderOptions F) (result : BoundSql)
    (free : ∀ token ∈ leftTokens options.transformer root, '$' ∉ token.toList)
    (rendered : renderParameterized (some root) options = .ok result) :
    ∃ sql, result.sql = some sql ∧
      dollarTokens sql.toList = placeholders options.start result.values.length ∧
      (options.start.toNat + result.values.length ≤ 18446744073709551616 →
        dollarTokens sql.toList =
          (List.range result.values.length).map fun i => "$" ++ (options.start.toNat + i).repr) ∧
      result.values = root.leaves.flatMap Leaf.operands := by
  obtain ⟨_, _, sql, values⟩ := rendered_parameterized rendered
  have tokens := Fragment.dollar_tokens_written (fragment options root) (node_plain _ _ _ _ root)
    (node_delimited _ _ _ _ root) (by rwa [fragment_lefts]) (.startingAt options.start)
  rw [fragment_operands, ← values] at tokens
  exact ⟨_, sql, tokens, fun fits => tokens.trans (placeholders_fit fits), values⟩

def rangeOrNames : Node String :=
  .group .and (some "a.") [
    .leaf (.of "id" .between (.array [.int 1, .int 5])),
    .group .or none [.leaf (.of "name" .isIn (.array [.string "$1", .null])), .leaf (.of "removed" .ne .null)]]

theorem placeholders_from_nine :
    (∀ token ∈ leftTokens none rangeOrNames, '$' ∉ token.toList) ∧
      ∃ result sql, renderParameterized (some rangeOrNames) { indentation := 2, start := 9 } = .ok result ∧
        result.sql = some sql ∧ dollarTokens sql.toList = ["$9", "$10", "$11", "$12"] ∧
        result.values = [.int 1, .int 5, .string "$1", .null] := by
  have free : ∀ token ∈ leftTokens none rangeOrNames, '$' ∉ token.toList := by decide +kernel
  obtain ⟨sql, written, _, counted, _⟩ :=
    placeholders_number_the_operands rangeOrNames { indentation := 2, start := 9 } _ free rfl
  exact ⟨free, _, sql, rfl, written, counted (by decide), rfl⟩

def numberList : Node String :=
  .leaf (.of "a" .isIn (.array [.int 1, .int 2]))

-- The last number of the counter is followed by zero, where counting would go on.
theorem list_past_the_counter :
    (∀ token ∈ leftTokens none numberList, '$' ∉ token.toList) ∧
      ∃ result sql, renderParameterized (some numberList) { start := 18446744073709551615 } = .ok result ∧
        result.sql = some sql ∧ dollarTokens sql.toList = ["$18446744073709551615", "$0"] ∧
        dollarTokens sql.toList ≠
          (List.range result.values.length).map fun i => "$" ++ (18446744073709551615 + i).repr := by
  have tokens : dollarTokens "a in ($18446744073709551615, $0)".toList = ["$18446744073709551615", "$0"] := by
    decide +kernel
  refine ⟨by decide +kernel, _, "a in ($18446744073709551615, $0)", rfl, rfl, tokens, ?_⟩
  rw [tokens]
  decide +kernel

end SqlFilter.Sql
