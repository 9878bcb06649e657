import SqlFilter.Proofs.Json.Scanners

/-!
# White space between tokens

A lexeme is read off a text in the same way whatever comes after it, if it ends there. Blanks around lexemes vanish.
-/

set_option autoImplicit false

namespace SqlFilter.Json

def Blank (gap : List Char) : Prop :=
  ∀ c ∈ gap, isSpace c = true

instance (gap : List Char) : Decidable (Blank gap) :=
  inferInstanceAs (Decidable (∀ c ∈ gap, isSpace c = true))

theorem newline_blank : Blank "\n".toList := by
  simp [Blank, isSpace]

def Token.isBroken : Token → Bool
  | .broken _ | .brokenString _ => true
  | _ => false

-- A piece of text that is one token whatever comes after it. A string may be refused, as for half a surrogate pair.
inductive Lexeme : List Char → Token → Prop where
  | mark {c : Char} {token : Token} (listed : punctuation.lookup c = some token) : Lexeme [c] token
  | null : Lexeme ['n', 'u', 'l', 'l'] .null
  | yes : Lexeme ['t', 'r', 'u', 'e'] (.bool true)
  | no : Lexeme ['f', 'a', 'l', 's', 'e'] (.bool false)
  | string {body text : List Char} (scanned : scanString body = .ok (text, [])) :
      Lexeme ('"' :: body) (.string (String.ofList text))
  | refused {body : List Char} (refused : ∀ rest, scanString (body ++ rest) = .error .malformed) :
      Lexeme ('"' :: body) (.brokenString .malformed)

-- A numeral. Of those that are too large for a double nothing is known but that they are numbers.
inductive NumberLexeme : List Char → Token → Prop where
  | value {text : List Char} {numeral : Decimal.Numeral} {n : Number} (scanned : scanNumeral text = .ok (numeral, []))
      (value : Number.ofNumeral? numeral = some n) : NumberLexeme text (.number n)
  | tooLarge {text : List Char} {numeral : Decimal.Numeral} (scanned : scanNumeral text = .ok (numeral, []))
      (noValue : Number.ofNumeral? numeral = none) : NumberLexeme text (.broken .malformed)

/-- A text as its tokens, with any white space between them. A number has to end where its numeral does. -/
inductive Lexes : List Token → List Char → Prop where
  | done {gap : List Char} (blank : Blank gap) : Lexes [] gap
  | next {gap text rest : List Char} {token : Token} {tokens : List Token} (blank : Blank gap)
      (lexeme : Lexeme text token) (more : Lexes tokens rest) : Lexes (token :: tokens) (gap ++ (text ++ rest))
  | number {gap text rest : List Char} {token : Token} {tokens : List Token} (blank : Blank gap)
      (lexeme : NumberLexeme text token) (ends : Ends rest) (more : Lexes tokens rest) :
      Lexes (token :: tokens) (gap ++ (text ++ rest))

-- What is left of some tokens when nothing is read after the first broken one.
def upToBroken : List Token → List Token
  | [] => []
  | token :: rest => if token.isBroken then [token] else token :: upToBroken rest

def Unbroken (tokens : List Token) : Prop :=
  ∀ token ∈ tokens, token.isBroken = false

instance (tokens : List Token) : Decidable (Unbroken tokens) :=
  inferInstanceAs (Decidable (∀ token ∈ tokens, token.isBroken = false))

@[simp] theorem unbroken_nil : Unbroken [] :=
  nofun

@[simp] theorem unbroken_cons (token : Token) (rest : List Token) :
    Unbroken (token :: rest) ↔ token.isBroken = false ∧ Unbroken rest :=
  List.forall_mem_cons

@[simp] theorem unbroken_append (front rest : List Token) :
    Unbroken (front ++ rest) ↔ Unbroken front ∧ Unbroken rest :=
  List.forall_mem_append

theorem up_to_broken_cons (token : Token) (rest : List Token) (whole : token.isBroken = false) :
    upToBroken (token :: rest) = token :: upToBroken rest := by
  rw [upToBroken, if_neg (by simp [whole])]

theorem up_to_broken_head (token : Token) (others : List Token) :
    ∃ left, upToBroken (token :: others) = token :: left := by
  rw [upToBroken]
  split <;> exact ⟨_, rfl⟩

theorem up_to_broken_unbroken (front rest : List Token) (unbroken : Unbroken front) :
    upToBroken (front ++ rest) = front ++ upToBroken rest := by
  induction front with
  | nil => rfl
  | cons token front ih =>
      obtain ⟨whole, more⟩ := (unbroken_cons token front).mp unbroken
      rw [List.cons_append, up_to_broken_cons token _ whole, ih more, List.cons_append]

theorem up_to_broken_broken (front rest : List Token) (broken : ¬ Unbroken front) :
    upToBroken (front ++ rest) = upToBroken front := by
  induction front with
  | nil => exact absurd unbroken_nil broken
  | cons token front ih =>
      rw [List.cons_append, upToBroken, upToBroken]
      split
      · rfl
      · rename_i whole
        rw [ih fun more => broken ((unbroken_cons token front).mpr ⟨eq_false_of_ne_true whole, more⟩)]

theorem tokens_nil : tokens [] = [] := by
  rw [tokens]

theorem mark_plain {c : Char} {token : Token} (listed : punctuation.lookup c = some token) :
    isSpace c = false ∧ token.isBroken = false := by
  obtain ⟨before, after, split, _⟩ := List.lookup_eq_some_iff.mp listed
  have member : (c, token) ∈ punctuation := by simp [split]
  simp only [punctuation, List.mem_cons, List.not_mem_nil, or_false, Prod.mk.injEq] at member
  rcases member with ⟨rfl, rfl⟩ | ⟨rfl, rfl⟩ | ⟨rfl, rfl⟩ | ⟨rfl, rfl⟩ | ⟨rfl, rfl⟩ | ⟨rfl, rfl⟩ <;> exact ⟨rfl, rfl⟩

theorem tokens_lexeme {text : List Char} {token : Token} (lexeme : Lexeme text token) (rest : List Char) :
    tokens (text ++ rest) = if token.isBroken then [token] else token :: tokens rest := by
  cases lexeme with
  | @mark c token listed =>
      obtain ⟨solid, whole⟩ := mark_plain listed
      rw [whole]
      refine tokens_first c rest rest token solid ?_
      rw [firstToken, listed]
  | null => exact tokens_first 'n' ('u' :: 'l' :: 'l' :: rest) rest .null rfl rfl
  | yes => exact tokens_first 't' ('r' :: 'u' :: 'e' :: rest) rest (.bool true) rfl rfl
  | no => exact tokens_first 'f' ('a' :: 'l' :: 's' :: 'e' :: rest) rest (.bool false) rfl rfl
  | @string body text scanned =>
      obtain ⟨front, whole, taken⟩ := scan_string_front scanned
      rw [List.append_nil] at whole
      refine tokens_first '"' (body ++ rest) rest _ rfl ?_
      change stringToken (body ++ rest) = _
      rw [whole, stringToken, taken rest]
  | @refused body refused =>
      have read := tokens_first '"' (body ++ rest) [] (.brokenString .malformed) rfl
      rw [tokens_nil] at read
      refine read ?_
      change stringToken (body ++ rest) = _
      rw [stringToken, refused rest]

theorem scan_unsigned_starts {negative : Bool} {text after : List Char} {numeral : Decimal.Numeral}
    (scanned : scanUnsigned negative text = .ok (numeral, after)) : ∃ c body, text = c :: body ∧ c.isDigit = true := by
  cases text with
  | nil => cases scanned
  | cons c body =>
      refine ⟨c, body, rfl, ?_⟩
      cases digit : c.isDigit with
      | true => rfl
      | false => simp [scanUnsigned, scanWhole, scanDigits, digit] at scanned

theorem scan_numeral_starts {text after : List Char} {numeral : Decimal.Numeral}
    (scanned : scanNumeral text = .ok (numeral, after)) :
    ∃ c body, text = c :: body ∧ (c = '-' ∨ c.isDigit = true) := by
  unfold scanNumeral at scanned
  split at scanned
  · exact ⟨_, _, rfl, .inl rfl⟩
  · obtain ⟨c, body, starts, digit⟩ := scan_unsigned_starts scanned
    exact ⟨c, body, starts, .inr digit⟩

theorem tokens_number_lexeme {text : List Char} {token : Token} (lexeme : NumberLexeme text token) (rest : List Char)
    (ends : Ends rest) : tokens (text ++ rest) = if token.isBroken then [token] else token :: tokens rest := by
  have first {numeral : Decimal.Numeral} (scanned : scanNumeral text = .ok (numeral, [])) :
      scanNumeral (text ++ rest) = .ok (numeral, rest) ∧ ∀ token after, numberToken (text ++ rest) = (token, after) →
        tokens (text ++ rest) = token :: tokens after := by
    obtain ⟨_, front, whole, taken⟩ := scan_numeral_front scanned
    rw [List.append_nil] at whole
    refine ⟨whole ▸ taken rest ends, fun token after number => ?_⟩
    obtain ⟨c, body, rfl, starts⟩ := scan_numeral_starts scanned
    obtain ⟨solid, numeric⟩ := first_numeral c (body ++ rest) starts
    exact tokens_first c (body ++ rest) after token solid (numeric.trans number)
  cases lexeme with
  | value scanned value =>
      obtain ⟨extended, first⟩ := first scanned
      refine first _ rest ?_
      rw [numberToken, extended]
      simp only [value]
  | tooLarge scanned noValue =>
      obtain ⟨extended, first⟩ := first scanned
      have read := first (.broken .malformed) []
      rw [tokens_nil] at read
      refine read ?_
      rw [numberToken, extended]
      simp only [noValue]

theorem tokens_lexes {ks : List Token} {text : List Char} (lexes : Lexes ks text) : tokens text = upToBroken ks := by
  induction lexes with
  | @done gap blank =>
      have skipped := tokens_blank gap [] blank
      rwa [List.append_nil, tokens_nil] at skipped
  | next blank lexeme _ ih => rw [tokens_blank _ _ blank, tokens_lexeme lexeme, ih, upToBroken]
  | number blank lexeme ends _ ih => rw [tokens_blank _ _ blank, tokens_number_lexeme lexeme _ ends, ih, upToBroken]

theorem lexes_blank {gap text : List Char} {ks : List Token} (blank : Blank gap) (lexes : Lexes ks text) :
    Lexes ks (gap ++ text) := by
  have joined {other : List Char} (otherBlank : Blank other) : Blank (gap ++ other) :=
    List.forall_mem_append.mpr ⟨blank, otherBlank⟩
  cases lexes with
  | done otherBlank => exact .done (joined otherBlank)
  | next otherBlank lexeme more =>
      rw [← List.append_assoc]
      exact .next (joined otherBlank) lexeme more
  | number otherBlank lexeme ends more =>
      rw [← List.append_assoc]
      exact .number (joined otherBlank) lexeme ends more

theorem scan_word_front {word cs after : List Char} (scanned : scanWord word cs = .ok after) : cs = word ++ after := by
  induction word generalizing cs with
  | nil =>
      cases scanned
      rfl
  | cons w word ih =>
      cases cs with
      | nil => cases scanned
      | cons c cs =>
          rw [scanWord] at scanned
          split at scanned
          · rename_i same
            rw [ih scanned, same, List.cons_append]
          · cases scanned

theorem word_lexeme {word cs after : List Char} {known token : Token}
    (read : wordToken word known cs = (token, after)) (whole : token.isBroken = false) :
    token = known ∧ cs = word ++ after := by
  unfold wordToken at read
  split at read
  · rename_i found
    cases read
    exact ⟨rfl, scan_word_front found⟩
  · cases read
    cases whole

theorem string_lexeme {cs after : List Char} {token : Token} (read : stringToken cs = (token, after))
    (whole : token.isBroken = false) : ∃ text, '"' :: cs = text ++ after ∧ Lexeme text token := by
  unfold stringToken at read
  split at read
  · rename_i scanned
    cases read
    obtain ⟨front, rfl, taken⟩ := scan_string_front scanned
    have alone := taken []
    rw [List.append_nil] at alone
    exact ⟨'"' :: front, rfl, .string alone⟩
  · cases read
    cases whole

theorem number_lexeme {cs after : List Char} {token : Token} (read : numberToken cs = (token, after))
    (whole : token.isBroken = false) : NoDigit after ∧ ∃ text, cs = text ++ after ∧ NumberLexeme text token := by
  unfold numberToken at read
  split at read
  · rename_i scanned
    split at read
    · rename_i value
      cases read
      obtain ⟨stops, front, rfl, taken⟩ := scan_numeral_front scanned
      have alone := taken [] nofun
      rw [List.append_nil] at alone
      exact ⟨stops, front, rfl, .value alone value⟩
    · cases read
      cases whole
  · cases read
    cases whole

theorem first_lexeme {c : Char} {rest after : List Char} {token : Token} (read : firstToken c rest = (token, after))
    (whole : token.isBroken = false) :
    ∃ text, c :: rest = text ++ after ∧ (Lexeme text token ∨ NoDigit after ∧ NumberLexeme text token) := by
  unfold firstToken at read
  split at read
  · rename_i listed
    cases read
    exact ⟨[c], rfl, .inl (.mark listed)⟩
  · split at read
    · rename_i quote
      obtain ⟨text, split, lexeme⟩ := string_lexeme read whole
      exact ⟨text, quote ▸ split, .inl lexeme⟩
    · split at read
      · obtain ⟨stops, text, split, lexeme⟩ := number_lexeme read whole
        exact ⟨text, split, .inr ⟨stops, lexeme⟩⟩
      · split at read
        · rename_i starts
          obtain ⟨rfl, rfl⟩ := word_lexeme read whole
          exact ⟨_, starts ▸ rfl, .inl .null⟩
        · split at read
          · rename_i starts
            obtain ⟨rfl, rfl⟩ := word_lexeme read whole
            exact ⟨_, starts ▸ rfl, .inl .yes⟩
          · split at read
            · rename_i starts
              obtain ⟨rfl, rfl⟩ := word_lexeme read whole
              exact ⟨_, starts ▸ rfl, .inl .no⟩
            · cases read
              cases whole

theorem ends_unbroken {rest : List Char} (stops : NoDigit rest) (unbroken : Unbroken (tokens rest)) : Ends rest := by
  intro c first
  cases rest with
  | nil => cases first
  | cons d rest =>
      cases first
      refine ⟨stops c rfl, ?_, ?_, ?_⟩ <;>
      · rintro rfl
        rw [tokens_first _ rest [] (.broken .malformed) rfl rfl, unbroken_cons] at unbroken
        cases unbroken.1

-- A text that has nothing that cannot be read is its tokens with white space between them.
theorem lexes_tokens (text : List Char) (unbroken : Unbroken (tokens text)) : Lexes (tokens text) text := by
  have tight : Blank [] := nofun
  fun_induction tokens text with
  | case1 => exact .done tight
  | case2 c rest space ih =>
      have blank : Blank [c] := by simpa [Blank] using space
      exact lexes_blank blank (ih unbroken)
  | case3 c rest solid next ih =>
      obtain ⟨whole, more⟩ := (unbroken_cons _ _).mp unbroken
      have read : firstToken c rest = (next.1, next.2) := rfl
      obtain ⟨text, split, lexeme⟩ := first_lexeme read whole
      rw [split]
      rcases lexeme with lexeme | ⟨stops, lexeme⟩
      · exact .next tight lexeme (ih more)
      · exact .number tight lexeme (ends_unbroken stops more) (ih more)

end SqlFilter.Json
