import SqlFilter.Json.Reader
import SqlFilter.Proofs.Json.Lexemes

/-!
# Depth of brackets

The nesting of a document is the number of brackets that are open at once in its text, compact or pretty.
-/

set_option autoImplicit false

namespace SqlFilter.Json

mutual
def nesting : Json → Nat
  | .null | .bool _ | .number _ | .string _ => 0
  | .array items => 1 + itemNesting items
  | .object members => 1 + memberNesting members
def itemNesting : List Json → Nat
  | [] => 0
  | item :: items => max item.nesting (itemNesting items)
def memberNesting : List (String × Json) → Nat
  | [] => 0
  | (_, value) :: members => max value.nesting (memberNesting members)
end

-- Where a character of a text stands: between literals, in a string literal, or right after a backslash in one.
inductive Within
  | text
  | literal
  | escape

-- The greatest number of brackets open at once, after some are. Brackets in string literals are text.
def deepest (opened : Nat) : Within → List Char → Nat
  | _, [] => opened
  | .text, c :: rest =>
      if c = '"' then deepest opened .literal rest
      else if c = '[' ∨ c = '{' then deepest (opened + 1) .text rest
      else if c = ']' ∨ c = '}' then max opened (deepest (opened - 1) .text rest)
      else deepest opened .text rest
  | .literal, c :: rest =>
      if c = '"' then deepest opened .text rest
      else if c = '\\' then deepest opened .escape rest
      else deepest opened .literal rest
  | .escape, _ :: rest => deepest opened .literal rest

def textNesting (text : String) : Nat :=
  deepest 0 .text text.toList

theorem opened_le_deepest (opened : Nat) (place : Within) (text : List Char) : opened ≤ deepest opened place text := by
  fun_induction deepest opened place text <;> omega

def Unbracketed (c : Char) : Prop :=
  c ≠ '"' ∧ c ≠ '[' ∧ c ≠ '{' ∧ c ≠ ']' ∧ c ≠ '}'

instance (c : Char) : Decidable (Unbracketed c) :=
  inferInstanceAs (Decidable (_ ∧ _))

theorem deepest_plain (opened : Nat) (plain rest : List Char) (unbracketed : ∀ c ∈ plain, Unbracketed c) :
    deepest opened .text (plain ++ rest) = deepest opened .text rest := by
  induction plain with
  | nil => rfl
  | cons c plain ih =>
      obtain ⟨noQuote, noArray, noObject, noArrayEnd, noObjectEnd⟩ := unbracketed c List.mem_cons_self
      rw [List.cons_append, deepest, if_neg noQuote, if_neg (not_or.mpr ⟨noArray, noObject⟩),
        if_neg (not_or.mpr ⟨noArrayEnd, noObjectEnd⟩)]
      exact ih fun d member => unbracketed d (List.mem_cons_of_mem _ member)

theorem unbracketed_space (c : Char) (space : isSpace c = true) : Unbracketed c := by
  simp only [isSpace, Bool.or_eq_true, beq_iff_eq] at space
  rcases space with ((rfl | rfl) | rfl) | rfl <;> decide

theorem unbracketed_digit (c : Char) (digit : c.isDigit = true) : Unbracketed c := by
  refine ⟨?_, ?_, ?_, ?_, ?_⟩ <;>
  · rintro rfl
    exact absurd digit (by decide)

theorem unbracketed_word (word : String) (known : word ∈ ["null", "true", "false"]) :
    ∀ c ∈ word.toList, Unbracketed c := by
  simp only [List.mem_cons, List.not_mem_nil, or_false] at known
  rcases known with rfl | rfl | rfl <;> simp [Unbracketed]

theorem hex_digit_plain : ∀ n < 16, Nat.digitChar n ≠ '"' ∧ Nat.digitChar n ≠ '\\' := by
  decide

theorem deepest_escape (opened : Nat) (c : Char) (rest : List Char) :
    deepest opened .literal (escape c ++ rest) = deepest opened .literal rest := by
  obtain ⟨letter, written, _⟩ | ⟨control, written⟩ | ⟨noQuote, noEscape, _, written⟩ := escape_cases c
  · rw [written]
    rfl
  · have high := hex_digit_plain (c.toNat / 16) (by omega)
    have low := hex_digit_plain (c.toNat % 16) (by omega)
    simp [written, deepest, high, low]
  · simp [written, deepest, noQuote, noEscape]

theorem deepest_quote (opened : Nat) (s : String) (rest : List Char) :
    deepest opened .text ((quote s).toList ++ rest) = deepest opened .text rest := by
  have literal : ∀ text : List Char,
      deepest opened .literal (text.flatMap escape ++ '"' :: rest) = deepest opened .text rest := by
    intro text
    induction text with
    | nil => rfl
    | cons c text ih => rw [List.flatMap_cons, List.append_assoc, deepest_escape, ih]
  rw [quote, String.toList_ofList, List.cons_append, List.cons_append, List.append_assoc, deepest, if_pos rfl]
  exact literal s.toList

theorem deepest_int (opened : Nat) (n : Int) (rest : List Char) :
    deepest opened .text ((Number.int n).write.toList ++ rest) = deepest opened .text rest := by
  refine deepest_plain opened _ rest fun c member => ?_
  cases n with
  | ofNat n =>
      have digit : c ∈ Nat.toDigits 10 n := by simpa [Number.write, Int.repr, Nat.toList_repr] using member
      exact unbracketed_digit c (digit_of_mem n c digit)
  | negSucc n =>
      have signed : c = '-' ∨ c ∈ Nat.toDigits 10 (n + 1) := by
        simpa [Number.write, Int.repr, Nat.toList_repr] using member
      rcases signed with rfl | digit
      · decide
      · exact unbracketed_digit c (digit_of_mem (n + 1) c digit)

section Written

variable {style : Style} (blank : style.Blank)

include blank

theorem deepest_break (opened depth : Nat) (rest : List Char) :
    deepest opened .text ((style.lineBreak depth).toList ++ rest) = deepest opened .text rest :=
  deepest_plain opened _ rest fun c member => unbracketed_space c (blank.lineBreak depth c member)

theorem deepest_key (opened : Nat) (key : String) (rest : List Char) :
    deepest opened .text ((quote key).toList ++ (style.colon.toList ++ rest)) = deepest opened .text rest := by
  obtain ⟨gap, colon, gapBlank⟩ := blank.colon
  rw [deepest_quote]
  refine deepest_plain opened _ rest fun c member => ?_
  rw [colon] at member
  rcases List.mem_cons.mp member with rfl | inGap
  · decide
  · exact unbracketed_space c (gapBlank c inGap)

mutual
theorem deepest_write (opened depth : Nat) (document : Json) (readable : document.Readable) (rest : List Char) :
    deepest opened .text ((write style depth document).toList ++ rest) =
      max (opened + document.nesting) (deepest opened .text rest) := by
  have least := opened_le_deepest opened .text rest
  cases document with
  | null =>
      rw [write, deepest_plain opened _ rest (unbracketed_word "null" (by simp)), nesting]
      omega
  | bool b =>
      cases b <;> rw [write, deepest_plain opened _ rest (unbracketed_word _ (by simp)), nesting] <;> omega
  | number n =>
      cases n with
      | int n =>
          rw [write, deepest_int, nesting]
          omega
      | float x => exact readable.elim
  | string s =>
      rw [write, deepest_quote, nesting]
      omega
  | array items =>
      cases items with
      | nil =>
          have brackets : deepest opened .text ((write style depth (.array [])).toList ++ rest) =
              max (opened + 1) (deepest opened .text rest) := by
            rw [write]
            rfl
          rw [brackets, nesting, itemNesting]
      | cons item items =>
          have close : deepest (opened + 1) .text (']' :: rest) = max (opened + 1) (deepest opened .text rest) := rfl
          rw [array_chars, deepest, if_neg (by decide), if_pos (by decide), deepest_break blank,
            deepest_write (opened + 1) (depth + 1) item readable.1,
            deepest_items (opened + 1) (depth + 1) items readable.2, deepest_break blank, close, nesting, itemNesting]
          omega
  | object members =>
      cases members with
      | nil =>
          have brackets : deepest opened .text ((write style depth (.object [])).toList ++ rest) =
              max (opened + 1) (deepest opened .text rest) := by
            rw [write]
            rfl
          rw [brackets, nesting, memberNesting]
      | cons member members =>
          obtain ⟨key, value⟩ := member
          have close : deepest (opened + 1) .text ('}' :: rest) = max (opened + 1) (deepest opened .text rest) := rfl
          rw [object_chars, deepest, if_neg (by decide), if_pos (by decide), deepest_break blank, deepest_key blank,
            deepest_write (opened + 1) (depth + 1) value readable.1,
            deepest_members (opened + 1) (depth + 1) members readable.2, deepest_break blank, close, nesting,
            memberNesting]
          omega
theorem deepest_items (opened depth : Nat) (items : List Json) (readable : AllReadable items) (rest : List Char) :
    deepest opened .text ((writeItems style depth items).toList ++ rest) =
      max (opened + itemNesting items) (deepest opened .text rest) := by
  cases items with
  | nil =>
      have least := opened_le_deepest opened .text rest
      rw [writeItems, String.toList_empty, List.nil_append, itemNesting]
      omega
  | cons item items =>
      rw [items_chars, deepest, if_neg (by decide), if_neg (by decide), if_neg (by decide), deepest_break blank,
        deepest_write opened depth item readable.1, deepest_items opened depth items readable.2, itemNesting]
      omega
theorem deepest_members (opened depth : Nat) (members : List (String × Json)) (readable : MembersReadable members)
    (rest : List Char) :
    deepest opened .text ((writeMembers style depth members).toList ++ rest) =
      max (opened + memberNesting members) (deepest opened .text rest) := by
  cases members with
  | nil =>
      have least := opened_le_deepest opened .text rest
      rw [writeMembers, String.toList_empty, List.nil_append, memberNesting]
      omega
  | cons member members =>
      obtain ⟨key, value⟩ := member
      rw [members_chars, deepest, if_neg (by decide), if_neg (by decide), if_neg (by decide), deepest_break blank,
        deepest_key blank, deepest_write opened depth value readable.1,
        deepest_members opened depth members readable.2, memberNesting]
      omega
end

-- Both printers nest their brackets as the document does. Blanks after it open none.
theorem text_nesting_padded (document : Json) (readable : document.Readable) (gap : String)
    (gapBlank : ∀ c ∈ gap.toList, isSpace c = true) :
    textNesting (write style 0 document ++ gap) = document.nesting := by
  have padding := deepest_plain 0 gap.toList [] fun c member => unbracketed_space c (gapBlank c member)
  rw [List.append_nil] at padding
  rw [textNesting, String.toList_append, deepest_write blank 0 0 document readable gap.toList, padding, deepest]
  omega

theorem text_nesting_write (document : Json) (readable : document.Readable) :
    textNesting (write style 0 document) = document.nesting := by
  have padded := text_nesting_padded blank document readable "" nofun
  rwa [String.append_empty] at padded

end Written

end SqlFilter.Json
