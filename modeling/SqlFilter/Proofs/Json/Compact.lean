import SqlFilter.Proofs.Json.Lexemes

/-!
# Compact texts

A compact text is one line, and the compact text of an array is made of those of its items.
-/

set_option autoImplicit false

namespace SqlFilter.Json

-- A text without line breaks.
def OneLine (cs : List Char) : Prop :=
  '\n' ∉ cs

@[simp] theorem one_line_nil : OneLine [] :=
  nofun

@[simp] theorem one_line_cons (c : Char) (rest : List Char) : OneLine (c :: rest) ↔ c ≠ '\n' ∧ OneLine rest := by
  rw [OneLine, List.mem_cons, not_or, ne_comm]
  rfl

@[simp] theorem one_line_append (front rest : List Char) :
    OneLine (front ++ rest) ↔ OneLine front ∧ OneLine rest := by
  rw [OneLine, List.mem_append, not_or]
  rfl

theorem digits_one_line {cs : List Char} (digits : ∀ c ∈ cs, c.isDigit = true) : OneLine cs := by
  intro member
  exact absurd (digits '\n' member) (by decide)

theorem zeros_one_line (count : Nat) : OneLine (List.replicate count '0') := by
  intro member
  exact absurd (List.eq_of_mem_replicate member) (by decide)

section Numerals

variable {digits : List Char} (first : Int) (all : ∀ c ∈ digits, c.isDigit = true)

include all

theorem take_one_line (count : Nat) : OneLine (digits.take count) :=
  digits_one_line fun c member => all c (List.mem_of_mem_take member)

theorem drop_one_line (count : Nat) : OneLine (digits.drop count) :=
  digits_one_line fun c member => all c (List.mem_of_mem_drop member)

theorem positional_one_line (pointZero : Bool) :
    OneLine (Decimal.Layout.positionalText pointZero digits first) := by
  have line := digits_one_line all
  unfold Decimal.Layout.positionalText
  split
  · simp [zeros_one_line, line]
  · dsimp only
    split
    · cases pointZero <;> simp [zeros_one_line, line]
    · simp [take_one_line all, drop_one_line all]

theorem exponent_one_line : OneLine (Decimal.Layout.exponentText digits first) := by
  have power := digits_one_line (digit_of_mem first.natAbs)
  have tail := drop_one_line all 1
  rw [List.drop_one] at tail
  unfold Decimal.Layout.exponentText
  split <;> split <;> simp [take_one_line all, tail, power]

end Numerals

theorem number_one_line (n : Number) : OneLine n.write.toList := by
  have plain (n : Nat) := digits_one_line (digit_of_mem n)
  cases n with
  | int n =>
      cases n with
      | ofNat n => simpa [Number.write, Int.repr, Nat.toList_repr] using plain n
      | negSucc n => simpa [Number.write, Int.repr, Nat.toList_repr] using plain (n + 1)
  | float x =>
      rw [Number.write, Decimal.Layout.write]
      cases Decimal.parts x with
      | nan => simp [Number.layout]
      | infinite negative => simp [Number.layout]
      | finite negative m q =>
          have body (n : Nat) (first : Int) : OneLine (Number.layout.unsigned (Nat.toDigits 10 n) first) := by
            simp only [Decimal.Layout.unsigned, Number.layout]
            split
            · exact positional_one_line first (digit_of_mem n) true
            · exact exponent_one_line first (digit_of_mem n)
          cases negative <;> simp [body]

theorem hex_digit_one_line : ∀ n < 16, Nat.digitChar n ≠ '\n' := by
  decide

theorem escape_one_line (c : Char) : OneLine (escape c) := by
  obtain ⟨letter, written, _, decoded⟩ | ⟨control, written⟩ | ⟨_, _, noControl, written⟩ := escape_cases c
  · have known : letter ≠ '\n' := by
      rintro rfl
      cases decoded
    simp [written, known]
  · have high := hex_digit_one_line (c.toNat / 16) (by omega)
    have low := hex_digit_one_line (c.toNat % 16) (by omega)
    simp [written, high, low]
  · have other : c ≠ '\n' := by
      rintro rfl
      exact noControl (by decide)
    simp [written, other]

theorem quote_one_line (s : String) : OneLine (quote s).toList := by
  have escaped : OneLine (s.toList.flatMap escape) := by
    intro member
    obtain ⟨c, _, written⟩ := List.mem_flatMap.mp member
    exact escape_one_line c written
  simp [quote, escaped]

theorem compact_break (depth : Nat) : OneLine (Style.compact.lineBreak depth).toList := by
  simp [Style.compact]

theorem compact_colon : OneLine Style.compact.colon.toList := by
  simp [Style.compact]

mutual
theorem compact_one_line (depth : Nat) (document : Json) : OneLine (write .compact depth document).toList := by
  cases document with
  | null => simp [write]
  | bool b => cases b <;> simp [write]
  | number n => exact number_one_line n
  | string s => exact quote_one_line s
  | array items =>
      cases items with
      | nil => simp [write]
      | cons item items =>
          simp [write, compact_break, compact_one_line (depth + 1) item, compact_items_one_line (depth + 1) items]
  | object members =>
      cases members with
      | nil => simp [write]
      | cons member members =>
          simp [write, compact_break, compact_colon, quote_one_line, compact_one_line (depth + 1) member.2,
            compact_members_one_line (depth + 1) members]
theorem compact_items_one_line (depth : Nat) (items : List Json) :
    OneLine (writeItems .compact depth items).toList := by
  cases items with
  | nil => simp [writeItems]
  | cons item items =>
      simp [writeItems, compact_break, compact_one_line depth item, compact_items_one_line depth items]
theorem compact_members_one_line (depth : Nat) (members : List (String × Json)) :
    OneLine (writeMembers .compact depth members).toList := by
  cases members with
  | nil => simp [writeMembers]
  | cons member members =>
      simp [writeMembers, compact_break, compact_colon, quote_one_line, compact_one_line depth member.2,
        compact_members_one_line depth members]
end

-- Without line breaks it makes no difference how deep a document stands.
mutual
theorem compact_depth (depth : Nat) (document : Json) : write .compact depth document = document.compact := by
  cases document with
  | null | bool b | number n | string s => rfl
  | array items =>
      cases items with
      | nil => rfl
      | cons item items =>
          rw [compact, write, write, compact_depth (depth + 1) item, compact_depth (0 + 1) item,
            compact_items_depth (depth + 1) items, compact_items_depth (0 + 1) items]
          rfl
  | object members =>
      cases members with
      | nil => rfl
      | cons member members =>
          rw [compact, write, write, compact_depth (depth + 1) member.2, compact_depth (0 + 1) member.2,
            compact_members_depth (depth + 1) members, compact_members_depth (0 + 1) members]
          rfl
theorem compact_items_depth (depth : Nat) (items : List Json) :
    writeItems .compact depth items = writeItems .compact 0 items := by
  cases items with
  | nil => rfl
  | cons item items =>
      rw [writeItems, writeItems, compact_depth depth item, compact_depth 0 item, compact_items_depth depth items]
      rfl
theorem compact_members_depth (depth : Nat) (members : List (String × Json)) :
    writeMembers .compact depth members = writeMembers .compact 0 members := by
  cases members with
  | nil => rfl
  | cons member members =>
      rw [writeMembers, writeMembers, compact_depth depth member.2, compact_depth 0 member.2,
        compact_members_depth depth members]
      rfl
end

-- What writes a comma before each item but the first writes commas between them.
theorem comma_separated {α : Type} (text : α → String) (more : List α → String) (none : more [] = "")
    (next : ∀ item items, more (item :: items) = "," ++ text item ++ more items) (item : α) (items : List α) :
    text item ++ more items = ",".intercalate ((item :: items).map text) := by
  induction items generalizing item with
  | nil => simp [none]
  | cons second items ih =>
      rw [next, String.append_assoc, ih second, List.map_cons, List.map_cons, List.map_cons,
        String.intercalate_cons_cons, String.append_assoc]

theorem compact_array (items : List Json) :
    (array items).compact = "[" ++ ",".intercalate (items.map compact) ++ "]" := by
  cases items with
  | nil => rfl
  | cons item items =>
      have separated := comma_separated compact (writeItems .compact 0) (by rw [writeItems])
        (fun item items => by rw [writeItems, compact_depth]; simp [Style.compact]) item items
      rw [← separated, compact, write, compact_depth, compact_items_depth]
      simp [Style.compact, String.append_assoc]

end SqlFilter.Json
