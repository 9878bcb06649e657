import SqlFilter.Json.Canonical
import SqlFilter.Json.Printer
import SqlFilter.Json.Token
import SqlFilter.Proofs.Digits

/-!
# Written documents as tokens

The tokens of a written document, whatever its style: strings with their escapes, numbers, and blanks in between.
-/

set_option autoImplicit false

namespace SqlFilter.Json

theorem scan_string_plain (text after : List Char) (c : Char) (rest : List Char)
    (scanned : scanString rest = .ok (text, after)) (noQuote : c ≠ '"') (noEscape : c ≠ '\\')
    (noControl : ¬ c.toNat < 32) :
    scanString (c :: rest) = .ok (c :: text, after) := by
  rw [scanString, if_neg noQuote, if_neg noEscape, if_neg noControl, scanned]

theorem scan_string_escape (text after : List Char) (c : Char) (body rest : List Char)
    (scanned : scanString rest = .ok (text, after)) (escaped : scanEscape body = .ok (c, rest)) :
    scanString ('\\' :: body) = .ok (c :: text, after) := by
  rw [scanString, if_neg (by decide), if_pos rfl]
  split
  · rename_i e failed
    rw [escaped] at failed
    cases failed
  · rename_i decoded last read
    rw [escaped] at read
    cases read
    rw [scanned]

theorem hex_number_control :
    ∀ n < 32, Text.hexNumber? ['0', '0', Nat.digitChar (n / 16), Nat.digitChar (n % 16)] = some n := by
  decide

theorem scan_control (c : Char) (rest : List Char) (control : c.toNat < 32) :
    scanEscape ('u' :: '0' :: '0' :: Nat.digitChar (c.toNat / 16) :: Nat.digitChar (c.toNat % 16) :: rest) =
      .ok (c, rest) := by
  have low : c.toNat < 0xD800 := Nat.lt_trans control (by decide)
  rw [scanEscape, if_pos rfl, scanUnicode, scanCode]
  simp only [hex_number_control _ control]
  simp [low, Char.ofNat_toNat]

-- A character is escaped by a letter, by its code, or not at all.
theorem escape_cases (c : Char) :
    (∃ letter, escape c = ['\\', letter] ∧ letter ≠ 'u' ∧ shortEscapes.lookup letter = some c) ∨
    (c.toNat < 32 ∧
      escape c = ['\\', 'u', '0', '0', Nat.digitChar (c.toNat / 16), Nat.digitChar (c.toNat % 16)]) ∨
    (c ≠ '"' ∧ c ≠ '\\' ∧ ¬ c.toNat < 32 ∧ escape c = [c]) := by
  by_cases special : c ∈ ['"', '\\', '\x08', '\x0c', '\n', '\r', '\t']
  · simp only [List.mem_cons, List.not_mem_nil, or_false] at special
    rcases special with rfl | rfl | rfl | rfl | rfl | rfl | rfl <;> exact .inl ⟨_, rfl, by decide, rfl⟩
  · simp only [List.mem_cons, List.not_mem_nil, or_false, not_or] at special
    obtain ⟨noQuote, noEscape, noBack, noFeed, noLine, noReturn, noTab⟩ := special
    by_cases control : c.toNat < 32
    · refine .inr (.inl ⟨control, ?_⟩)
      simp only [escape, if_neg noQuote, if_neg noEscape, if_neg noBack, if_neg noFeed, if_neg noLine, if_neg noReturn,
        if_neg noTab, if_pos control]
    · refine .inr (.inr ⟨noQuote, noEscape, control, ?_⟩)
      simp only [escape, if_neg noQuote, if_neg noEscape, if_neg noBack, if_neg noFeed, if_neg noLine, if_neg noReturn,
        if_neg noTab, if_neg control]

theorem scan_string_cons (text after : List Char) (c : Char) (rest : List Char)
    (scanned : scanString rest = .ok (text, after)) :
    scanString (escape c ++ rest) = .ok (c :: text, after) := by
  obtain ⟨letter, written, noCode, decoded⟩ | ⟨control, written⟩ | ⟨noQuote, noEscape, noControl, written⟩ :=
    escape_cases c
  · rw [written]
    refine scan_string_escape text after c (letter :: rest) rest scanned ?_
    rw [scanEscape, if_neg noCode, decoded]
  · rw [written]
    exact scan_string_escape text after c _ rest scanned (scan_control c rest control)
  · rw [written]
    exact scan_string_plain text after c rest scanned noQuote noEscape noControl

theorem scan_string_escaped (text rest : List Char) :
    scanString (text.flatMap escape ++ '"' :: rest) = .ok (text, rest) := by
  induction text with
  | nil => simp [scanString]
  | cons c text ih =>
      rw [List.flatMap_cons, List.append_assoc]
      exact scan_string_cons text rest c _ ih

def NoDigit (rest : List Char) : Prop :=
  ∀ c, rest.head? = some c → c.isDigit = false

-- What comes after a number in a text has to end it.
def Ends (rest : List Char) : Prop :=
  ∀ c, rest.head? = some c → c.isDigit = false ∧ c ≠ '.' ∧ c ≠ 'e' ∧ c ≠ 'E'

theorem no_digit_of_ends {rest : List Char} (ends : Ends rest) : NoDigit rest :=
  fun c first => (ends c first).1

theorem scan_digits_front {digits rest : List Char} (present : digits ≠ []) (all : ∀ c ∈ digits, c.isDigit = true)
    (noDigit : NoDigit rest) : scanDigits (digits ++ rest) = .ok (digits, rest) := by
  obtain ⟨taken, dropped⟩ := digits_taken digits rest all noDigit
  cases digits with
  | nil => exact absurd rfl present
  | cons digit others => rw [scanDigits, taken, dropped]

theorem scan_digits_exact (n : Nat) (rest : List Char) (ends : Ends rest) :
    scanDigits (Nat.toDigits 10 n ++ rest) = .ok (Nat.toDigits 10 n, rest) :=
  scan_digits_front Nat.toDigits_ne_nil (digit_of_mem n) (no_digit_of_ends ends)

theorem scan_whole_exact (n : Nat) (rest : List Char) (ends : Ends rest) :
    scanWhole (Nat.toDigits 10 n ++ rest) = .ok (Nat.toDigits 10 n, rest) := by
  rw [scanWhole, scan_digits_exact n rest ends]
  split
  · rename_i others after scanned
    have digits : Nat.toDigits 10 n = '0' :: _ := (Prod.mk.inj (Except.ok.inj scanned)).1
    rw [leading_zero n _ digits, Nat.toDigits_zero] at digits
    cases digits
  · rfl

theorem scan_unsigned_exact (negative : Bool) (n : Nat) (rest : List Char) (ends : Ends rest) :
    scanUnsigned negative (Nat.toDigits 10 n ++ rest) = .ok (⟨negative, Nat.toDigits 10 n, none, none⟩, rest) := by
  have noFraction : scanFraction rest = .ok (none, rest) := by
    unfold scanFraction
    split
    · exact absurd rfl (ends '.' rfl).2.1
    · rfl
  have noExponent : scanExponent rest = .ok (none, rest) := by
    cases rest with
    | nil => rfl
    | cons c rest =>
        have other := (ends c rfl).2.2
        simp [scanExponent, other.1, other.2]
  rw [scanUnsigned, scan_whole_exact n rest ends]
  simp only [noFraction, noExponent]

end SqlFilter.Json

namespace SqlFilter.Number

theorem digits_grow (n : Nat) (digits : List Char) : n ≤ Nat.ofDigitChars 10 digits n := by
  induction digits generalizing n with
  | nil => exact Nat.le_refl n
  | cons digit digits ih =>
      rw [Nat.ofDigitChars_cons]
      exact Nat.le_trans (by omega) (ih _)

theorem gather_within (n : Nat) (digits : List Char) (within : Nat.ofDigitChars 10 digits n ≤ gatherLimit) :
    gather n digits = (Nat.ofDigitChars 10 digits n, []) := by
  induction digits generalizing n with
  | nil => rfl
  | cons digit digits ih =>
      rw [Nat.ofDigitChars_cons] at within ⊢
      have next : n * 10 + (digit.toNat - 48) = 10 * n + (digit.toNat - '0'.toNat) := by
        rw [Nat.mul_comm]
        rfl
      rw [gather, next]
      simp only [if_pos (Nat.le_trans (digits_grow _ digits) within)]
      exact ih _ within

theorem of_numeral_natural (n : Nat) (fits : n < 18446744073709551616) :
    ofNumeral? ⟨false, Nat.toDigits 10 n, none, none⟩ = some (.int n) := by
  have gathered := gather_within 0 (Nat.toDigits 10 n)
  rw [Nat.ofDigitChars_ten_toDigits] at gathered
  simp [ofNumeral?, gathered (Nat.le_of_lt_succ fits)]

theorem of_numeral_negative (n : Nat) (positive : n ≠ 0) (fits : n ≤ 9223372036854775808) :
    ofNumeral? ⟨true, Nat.toDigits 10 n, none, none⟩ = some (.int (-n)) := by
  have gathered := gather_within 0 (Nat.toDigits 10 n)
  rw [Nat.ofDigitChars_ten_toDigits] at gathered
  have within : n ≤ gatherLimit := Nat.le_trans fits (by decide)
  have inside : ¬ 9223372036854775808 < n := Nat.not_lt.mpr fits
  simp [ofNumeral?, gathered within, positive, inside]

end SqlFilter.Number

namespace SqlFilter.Json

mutual
def toTokens : Json → List Token
  | .null => [.null]
  | .bool b => [.bool b]
  | .number n => [.number n]
  | .string s => [.string s]
  | .array [] => [.openArray, .closeArray]
  | .array (item :: items) => .openArray :: (item.toTokens ++ itemTokens items)
  | .object [] => [.openObject, .closeObject]
  | .object ((key, value) :: members) =>
      .openObject :: .string key :: .colon :: (value.toTokens ++ memberTokens members)
def itemTokens : List Json → List Token
  | [] => [.closeArray]
  | item :: items => .comma :: (item.toTokens ++ itemTokens items)
def memberTokens : List (String × Json) → List Token
  | [] => [.closeObject]
  | (key, value) :: members => .comma :: .string key :: .colon :: (value.toTokens ++ memberTokens members)
end

-- The numbers that are read as they are written: whole, within 64 bits.
mutual
def Readable : Json → Prop
  | .null | .bool _ | .string _ => True
  | .number (.int n) => (Number.int n).Fits
  | .number (.float _) => False
  | .array items => AllReadable items
  | .object members => MembersReadable members
def AllReadable : List Json → Prop
  | [] => True
  | item :: items => item.Readable ∧ AllReadable items
def MembersReadable : List (String × Json) → Prop
  | [] => True
  | (_, value) :: members => value.Readable ∧ MembersReadable members
end

theorem tokens_space (c : Char) (rest : List Char) (space : isSpace c = true) : tokens (c :: rest) = tokens rest := by
  rw [tokens, if_pos space]

theorem tokens_blank (gap rest : List Char) (blank : ∀ c ∈ gap, isSpace c = true) :
    tokens (gap ++ rest) = tokens rest := by
  induction gap with
  | nil => rfl
  | cons c gap ih =>
      rw [List.cons_append, tokens_space c _ (blank c List.mem_cons_self)]
      exact ih fun d member => blank d (List.mem_cons_of_mem _ member)

theorem tokens_first (c : Char) (text rest : List Char) (token : Token) (solid : isSpace c = false)
    (first : firstToken c text = (token, rest)) : tokens (c :: text) = token :: tokens rest := by
  rw [tokens, solid, first]
  rfl

theorem tokens_quote (s : String) (rest : List Char) :
    tokens ((quote s).toList ++ rest) = .string s :: tokens rest := by
  have scanned := scan_string_escaped s.toList rest
  rw [quote, String.toList_ofList, List.cons_append, List.cons_append, List.append_assoc]
  refine tokens_first '"' _ rest _ rfl ?_
  change stringToken _ = _
  rw [stringToken, List.cons_append, List.nil_append, scanned]
  simp only [String.ofList_toList]

theorem first_numeral (c : Char) (text : List Char) (starts : c = '-' ∨ c.isDigit = true) :
    isSpace c = false ∧ firstToken c text = numberToken (c :: text) := by
  have different (d : Char) (noStart : d ≠ '-' ∧ d.isDigit = false) : (c == d) = false := by
    rw [beq_eq_false_iff_ne]
    rintro rfl
    rcases starts with minus | digit
    · exact noStart.1 minus
    · exact absurd digit (by rw [noStart.2]; decide)
  have noQuote : c ≠ '"' := beq_eq_false_iff_ne.mp (different '"' (by decide))
  constructor
  · simp only [isSpace, different ' ' (by decide), different '\t' (by decide), different '\n' (by decide),
      different '\r' (by decide), Bool.or_false]
  · have unlisted : punctuation.lookup c = none := by
      simp only [punctuation, List.lookup_cons, List.lookup_nil, different '[' (by decide), different ']' (by decide),
        different '{' (by decide), different '}' (by decide), different ',' (by decide), different ':' (by decide)]
    rw [firstToken, unlisted]
    dsimp only
    rw [if_neg noQuote, if_pos (by simpa using starts)]

theorem scan_numeral_natural (n : Nat) (rest : List Char) (ends : Ends rest) :
    scanNumeral (Nat.toDigits 10 n ++ rest) = .ok (⟨false, Nat.toDigits 10 n, none, none⟩, rest) := by
  unfold scanNumeral
  split
  · rename_i after minus
    cases digits : Nat.toDigits 10 n with
    | nil => exact absurd digits Nat.toDigits_ne_nil
    | cons c others =>
        have digit := digit_of_mem n c (by simp [digits])
        rw [digits, List.cons_append] at minus
        rw [(List.cons.inj minus).1] at digit
        exact absurd digit (by decide)
  · exact scan_unsigned_exact false n rest ends

theorem tokens_natural (n : Nat) (fits : n < 18446744073709551616) (rest : List Char) (ends : Ends rest) :
    tokens (Nat.toDigits 10 n ++ rest) = .number (.int n) :: tokens rest := by
  have read : numberToken (Nat.toDigits 10 n ++ rest) = (.number (.int n), rest) := by
    rw [numberToken, scan_numeral_natural n rest ends]
    simp only [Number.of_numeral_natural n fits]
  cases digits : Nat.toDigits 10 n with
  | nil => exact absurd digits Nat.toDigits_ne_nil
  | cons c others =>
      have first := first_numeral c (others ++ rest) (.inr (digit_of_mem n c (by simp [digits])))
      rw [digits] at read
      exact tokens_first c _ rest _ first.1 (first.2.trans read)

theorem tokens_number (n : Int) (fits : (Number.int n).Fits) (rest : List Char) (ends : Ends rest) :
    tokens ((Number.int n).write.toList ++ rest) = .number (.int n) :: tokens rest := by
  cases n with
  | ofNat n =>
      have small : n < 18446744073709551616 := Int.ofNat_lt.mp fits.2
      simpa [Number.write, Int.repr, Nat.toList_repr] using tokens_natural n small rest ends
  | negSucc n =>
      have small : n + 1 ≤ 9223372036854775808 := by
        have lower := fits.1
        omega
      have read : numberToken ('-' :: (Nat.toDigits 10 (n + 1) ++ rest)) = (.number (.int (Int.negSucc n)), rest) := by
        rw [numberToken, scanNumeral, scan_unsigned_exact true (n + 1) rest ends]
        simp only [Number.of_numeral_negative (n + 1) (Nat.succ_ne_zero n) small]
        rfl
      have first := first_numeral '-' (Nat.toDigits 10 (n + 1) ++ rest) (.inl rfl)
      simpa [Number.write, Int.repr, Nat.toList_repr] using
        tokens_first '-' _ rest _ first.1 (first.2.trans read)

structure Style.Blank (style : Style) : Prop where
  lineBreak : ∀ depth, ∀ c ∈ (style.lineBreak depth).toList, isSpace c = true
  colon : ∃ gap, style.colon.toList = ':' :: gap ∧ ∀ c ∈ gap, isSpace c = true

theorem Style.compact_blank : Style.compact.Blank :=
  ⟨by simp [compact], [], rfl, by simp⟩

theorem Style.pretty_blank : Style.pretty.Blank := by
  refine ⟨fun depth c member => ?_, [' '], rfl, by simp [isSpace]⟩
  simp only [pretty, String.toList_ofList, List.mem_cons, List.mem_replicate] at member
  rcases member with rfl | ⟨_, rfl⟩ <;> decide

theorem ends_space (c : Char) (rest : List Char) (space : isSpace c = true) : Ends (c :: rest) := by
  intro d first
  cases first
  simp only [isSpace, Bool.or_eq_true, beq_iff_eq] at space
  rcases space with ((rfl | rfl) | rfl) | rfl <;> decide

theorem ends_blank (gap : List Char) (blank : ∀ c ∈ gap, isSpace c = true) : Ends gap := by
  cases gap with
  | nil => nofun
  | cons c gap => exact ends_space c gap (blank c List.mem_cons_self)

theorem ends_gap (gap rest : List Char) (c : Char) (blank : ∀ c ∈ gap, isSpace c = true)
    (stop : c = ',' ∨ c = ']' ∨ c = '}') : Ends (gap ++ c :: rest) := by
  cases gap with
  | nil =>
      intro d first
      cases first
      rcases stop with rfl | rfl | rfl <;> decide
  | cons e gap => exact ends_space e _ (blank e List.mem_cons_self)

section Written

variable (style : Style) (depth : Nat) (rest : List Char)

theorem array_chars (item : Json) (items : List Json) :
    (write style depth (.array (item :: items))).toList ++ rest =
      '[' :: ((style.lineBreak (depth + 1)).toList ++ ((write style (depth + 1) item).toList ++
        ((writeItems style (depth + 1) items).toList ++ ((style.lineBreak depth).toList ++ ']' :: rest)))) := by
  simp [write]

theorem object_chars (key : String) (value : Json) (members : List (String × Json)) :
    (write style depth (.object ((key, value) :: members))).toList ++ rest =
      '{' :: ((style.lineBreak (depth + 1)).toList ++ ((quote key).toList ++ (style.colon.toList ++
        ((write style (depth + 1) value).toList ++ ((writeMembers style (depth + 1) members).toList ++
          ((style.lineBreak depth).toList ++ '}' :: rest)))))) := by
  simp [write]

theorem items_chars (item : Json) (items : List Json) :
    (writeItems style depth (item :: items)).toList ++ rest =
      ',' :: ((style.lineBreak depth).toList ++ ((write style depth item).toList ++
        ((writeItems style depth items).toList ++ rest))) := by
  simp [writeItems]

theorem members_chars (key : String) (value : Json) (members : List (String × Json)) :
    (writeMembers style depth ((key, value) :: members)).toList ++ rest =
      ',' :: ((style.lineBreak depth).toList ++ ((quote key).toList ++ (style.colon.toList ++
        ((write style depth value).toList ++ ((writeMembers style depth members).toList ++ rest))))) := by
  simp [writeMembers]

theorem ends_items (items : List Json) (gap : List Char) (blank : ∀ c ∈ gap, isSpace c = true) :
    Ends ((writeItems style depth items).toList ++ (gap ++ ']' :: rest)) := by
  cases items with
  | nil => exact ends_gap gap rest ']' blank (.inr (.inl rfl))
  | cons item items =>
      rw [items_chars]
      exact ends_gap [] _ ',' (by simp) (.inl rfl)

theorem ends_members (members : List (String × Json)) (gap : List Char) (blank : ∀ c ∈ gap, isSpace c = true) :
    Ends ((writeMembers style depth members).toList ++ (gap ++ '}' :: rest)) := by
  cases members with
  | nil => exact ends_gap gap rest '}' blank (.inr (.inr rfl))
  | cons member members =>
      rw [members_chars]
      exact ends_gap [] _ ',' (by simp) (.inl rfl)

end Written

section Tokens

variable {style : Style} (blank : style.Blank)

include blank

theorem tokens_key (depth : Nat) (key : String) (rest : List Char) :
    tokens ((style.lineBreak depth).toList ++ ((quote key).toList ++ (style.colon.toList ++ rest))) =
      .string key :: .colon :: tokens rest := by
  obtain ⟨gap, colon, gapBlank⟩ := blank.colon
  rw [tokens_blank _ _ (blank.lineBreak depth), tokens_quote, colon, List.cons_append,
    tokens_first ':' _ _ .colon rfl rfl, tokens_blank gap rest gapBlank]

mutual
theorem tokens_write (depth : Nat) (document : Json) (readable : document.Readable) (rest : List Char)
    (ends : Ends rest) : tokens ((write style depth document).toList ++ rest) = document.toTokens ++ tokens rest := by
  cases document with
  | null =>
      rw [write, toTokens]
      exact tokens_first 'n' ('u' :: 'l' :: 'l' :: rest) rest .null rfl rfl
  | bool b =>
      cases b with
      | true =>
          rw [write, toTokens]
          exact tokens_first 't' ('r' :: 'u' :: 'e' :: rest) rest (.bool true) rfl rfl
      | false =>
          rw [write, toTokens]
          exact tokens_first 'f' ('a' :: 'l' :: 's' :: 'e' :: rest) rest (.bool false) rfl rfl
  | number n =>
      cases n with
      | int n => exact tokens_number n readable rest ends
      | float x => exact readable.elim
  | string s => exact tokens_quote s rest
  | array items =>
      cases items with
      | nil =>
          have closed := tokens_first ']' rest rest .closeArray rfl rfl
          rw [write, toTokens]
          exact (tokens_first '[' (']' :: rest) _ .openArray rfl rfl).trans (congrArg _ closed)
      | cons item items =>
          have head := tokens_write (depth + 1) item readable.1 _
            (ends_items style (depth + 1) rest items _ (blank.lineBreak depth))
          rw [tokens_items (depth + 1) items readable.2 _ rest (blank.lineBreak depth)] at head
          rw [array_chars, tokens_first '[' _ _ .openArray rfl rfl, tokens_blank _ _ (blank.lineBreak _), head,
            toTokens, List.cons_append, List.append_assoc]
  | object members =>
      cases members with
      | nil =>
          have closed := tokens_first '}' rest rest .closeObject rfl rfl
          rw [write, toTokens]
          exact (tokens_first '{' ('}' :: rest) _ .openObject rfl rfl).trans (congrArg _ closed)
      | cons member members =>
          obtain ⟨key, value⟩ := member
          have head := tokens_write (depth + 1) value readable.1 _
            (ends_members style (depth + 1) rest members _ (blank.lineBreak depth))
          rw [tokens_members (depth + 1) members readable.2 _ rest (blank.lineBreak depth)] at head
          rw [object_chars, tokens_first '{' _ _ .openObject rfl rfl, tokens_key blank, head, toTokens,
            List.cons_append, List.cons_append, List.cons_append, List.append_assoc]
theorem tokens_items (depth : Nat) (items : List Json) (readable : AllReadable items) (gap rest : List Char)
    (gapBlank : ∀ c ∈ gap, isSpace c = true) :
    tokens ((writeItems style depth items).toList ++ (gap ++ ']' :: rest)) = itemTokens items ++ tokens rest := by
  cases items with
  | nil => exact (tokens_blank gap _ gapBlank).trans (tokens_first ']' rest rest .closeArray rfl rfl)
  | cons item items =>
      have head := tokens_write depth item readable.1 _ (ends_items style depth rest items gap gapBlank)
      rw [tokens_items depth items readable.2 gap rest gapBlank] at head
      rw [items_chars, tokens_first ',' _ _ .comma rfl rfl, tokens_blank _ _ (blank.lineBreak _), head, itemTokens,
        List.cons_append, List.append_assoc]
theorem tokens_members (depth : Nat) (members : List (String × Json)) (readable : MembersReadable members)
    (gap rest : List Char) (gapBlank : ∀ c ∈ gap, isSpace c = true) :
    tokens ((writeMembers style depth members).toList ++ (gap ++ '}' :: rest)) =
      memberTokens members ++ tokens rest := by
  cases members with
  | nil => exact (tokens_blank gap _ gapBlank).trans (tokens_first '}' rest rest .closeObject rfl rfl)
  | cons member members =>
      obtain ⟨key, value⟩ := member
      have head := tokens_write depth value readable.1 _ (ends_members style depth rest members gap gapBlank)
      rw [tokens_members depth members readable.2 gap rest gapBlank] at head
      rw [members_chars, tokens_first ',' _ _ .comma rfl rfl, tokens_key blank, head, memberTokens,
        List.cons_append, List.cons_append, List.cons_append, List.append_assoc]
end

end Tokens

end SqlFilter.Json
