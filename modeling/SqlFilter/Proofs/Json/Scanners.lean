import SqlFilter.Proofs.Json.Lexemes

/-!
# What scanners take

What a scanner takes off a text depends on the characters alone that it takes: it takes the same when others follow.
-/

set_option autoImplicit false

namespace SqlFilter.Json

theorem scan_code_front {cs after : List Char} {code : Nat} (scanned : scanCode cs = .ok (code, after)) :
    ∃ front, cs = front ++ after ∧ ∀ rest, scanCode (front ++ rest) = .ok (code, rest) := by
  unfold scanCode at scanned
  split at scanned
  · rename_i a b c d tail
    split at scanned
    · rename_i found
      cases scanned
      refine ⟨[a, b, c, d], rfl, fun rest => ?_⟩
      simp [scanCode, found]
    · cases scanned
  · cases scanned

theorem scan_trail_front {cs after : List Char} {code : Nat} (scanned : scanTrail cs = .ok (code, after)) :
    ∃ front, cs = front ++ after ∧ ∀ rest, scanTrail (front ++ rest) = .ok (code, rest) := by
  unfold scanTrail at scanned
  split at scanned
  · cases scanned
  · cases scanned
  · rename_i c u tail
    split at scanned
    · cases scanned
    · rename_i starts
      split at scanned
      · cases scanned
      · rename_i code after found
        split at scanned
        · cases scanned
        · rename_i trailing
          cases scanned
          obtain ⟨front, rfl, taken⟩ := scan_code_front found
          refine ⟨c :: u :: front, rfl, fun rest => ?_⟩
          rw [List.cons_append, List.cons_append, scanTrail, if_neg starts, taken rest]
          exact if_neg trailing

theorem scan_unicode_front {cs after : List Char} {c : Char} (scanned : scanUnicode cs = .ok (c, after)) :
    ∃ front, cs = front ++ after ∧ ∀ rest, scanUnicode (front ++ rest) = .ok (c, rest) := by
  unfold scanUnicode at scanned
  split at scanned
  · cases scanned
  · rename_i code tail lead
    obtain ⟨front, rfl, taken⟩ := scan_code_front lead
    split at scanned
    · rename_i alone
      cases scanned
      refine ⟨front, rfl, fun rest => ?_⟩
      rw [scanUnicode, taken rest]
      exact if_pos alone
    · rename_i paired
      split at scanned
      · cases scanned
      · rename_i leading
        split at scanned
        · cases scanned
        · rename_i trail
          obtain ⟨trailFront, rfl, trailTaken⟩ := scan_trail_front trail
          obtain ⟨character, following⟩ := Prod.mk.inj (Except.ok.inj scanned)
          refine ⟨front ++ trailFront, by rw [← following, List.append_assoc], fun rest => ?_⟩
          rw [List.append_assoc, scanUnicode, taken (trailFront ++ rest)]
          dsimp only
          rw [if_neg paired, if_neg leading, trailTaken rest, ← character]

theorem scan_escape_front {cs after : List Char} {c : Char} (scanned : scanEscape cs = .ok (c, after)) :
    ∃ front, cs = front ++ after ∧ ∀ rest, scanEscape (front ++ rest) = .ok (c, rest) := by
  unfold scanEscape at scanned
  split at scanned
  · cases scanned
  · rename_i first tail
    split at scanned
    · rename_i byCode
      obtain ⟨front, rfl, taken⟩ := scan_unicode_front scanned
      refine ⟨first :: front, rfl, fun rest => ?_⟩
      rw [List.cons_append, scanEscape, if_pos byCode, taken rest]
    · rename_i byLetter
      split at scanned
      · rename_i decoded found
        cases scanned
        refine ⟨[first], rfl, fun rest => ?_⟩
        rw [List.singleton_append, scanEscape, if_neg byLetter, found]
      · cases scanned

theorem scan_string_front {cs text after : List Char} (scanned : scanString cs = .ok (text, after)) :
    ∃ front, cs = front ++ after ∧ ∀ rest, scanString (front ++ rest) = .ok (text, rest) := by
  fun_induction scanString cs generalizing text after with
  | case1 | case3 | case4 | case6 | case7 => cases scanned
  | case2 =>
      cases scanned
      refine ⟨['"'], rfl, fun rest => ?_⟩
      rw [List.singleton_append, scanString, if_pos rfl]
  | case5 tail decoded following escaped text after read notQuote ih =>
      cases scanned
      obtain ⟨front, rfl, taken⟩ := scan_escape_front escaped
      obtain ⟨body, rfl, bodyTaken⟩ := ih read
      refine ⟨'\\' :: (front ++ body), by simp, fun rest => ?_⟩
      rw [List.cons_append, List.append_assoc]
      exact scan_string_escape _ _ _ _ _ (bodyTaken rest) (taken (body ++ rest))
  | case8 c tail notQuote notBackslash notControl text after read ih =>
      cases scanned
      obtain ⟨body, rfl, taken⟩ := ih read
      exact ⟨c :: body, rfl, fun rest => scan_string_plain _ _ _ _ (taken rest) notQuote notBackslash notControl⟩

-- The same for numbers, but what follows must not be able to continue them.
def NoPoint (rest : List Char) : Prop :=
  ∀ c, rest.head? = some c → c ≠ '.'

theorem scan_digits_parts {cs digits after : List Char} (scanned : scanDigits cs = .ok (digits, after)) :
    cs = digits ++ after ∧ digits ≠ [] ∧ (∀ c ∈ digits, c.isDigit = true) ∧ NoDigit after := by
  unfold scanDigits at scanned
  split at scanned
  · cases scanned
  · rename_i digit others taken
    cases scanned
    refine ⟨?_, List.cons_ne_nil _ _, ?_, fun c first => ?_⟩
    · rw [← taken, List.takeWhile_append_dropWhile]
    · rw [← taken]
      exact List.all_eq_true.mp List.all_takeWhile
    · have stops := List.head?_dropWhile_not Char.isDigit cs
      rwa [first] at stops

theorem scan_whole_front {cs digits after : List Char} (scanned : scanWhole cs = .ok (digits, after)) :
    NoDigit after ∧ ∃ front, cs = front ++ after ∧
      ∀ rest, NoDigit rest → scanWhole (front ++ rest) = .ok (digits, rest) := by
  unfold scanWhole at scanned
  split at scanned
  · cases scanned
  · rename_i noZero
    obtain ⟨rfl, present, all, stops⟩ := scan_digits_parts scanned
    refine ⟨stops, digits, rfl, fun rest noDigit => ?_⟩
    rw [scanWhole, scan_digits_front present all noDigit]
    split
    · rename_i second others last read
      cases read
      exact absurd scanned (noZero _ _ _)
    · rfl

theorem scan_fraction_front {cs after : List Char} {digits : Option (List Char)} (solid : NoDigit cs)
    (scanned : scanFraction cs = .ok (digits, after)) :
    NoDigit after ∧ ∃ front, cs = front ++ after ∧ ∀ rest, NoDigit rest → NoPoint rest →
      NoDigit (front ++ rest) ∧ scanFraction (front ++ rest) = .ok (digits, rest) := by
  unfold scanFraction at scanned
  split at scanned
  · rename_i tail
    cases found : scanDigits tail with
    | error e => simp [found, Except.map] at scanned
    | ok pair =>
        obtain ⟨taken, left⟩ := pair
        rw [found] at scanned
        cases scanned
        obtain ⟨rfl, present, all, stops⟩ := scan_digits_parts found
        refine ⟨stops, '.' :: taken, rfl, fun rest noDigit _ => ⟨?_, ?_⟩⟩
        · rintro c ⟨⟩
          rfl
        · rw [List.cons_append, scanFraction, scan_digits_front present all noDigit]
          rfl
  · cases scanned
    refine ⟨solid, [], rfl, fun rest noDigit noPoint => ⟨noDigit, ?_⟩⟩
    rw [List.nil_append]
    unfold scanFraction
    split
    · exact absurd rfl (noPoint '.' rfl)
    · rfl

theorem split_sign_front {cs digits after : List Char} {negative : Bool}
    (signed : Decimal.splitSign cs = (negative, digits ++ after)) (present : digits ≠ []) :
    ∃ front, cs = front ++ after ∧ ∀ rest, Decimal.splitSign (front ++ rest) = (negative, digits ++ rest) := by
  unfold Decimal.splitSign at signed
  split at signed
  · cases signed
    exact ⟨'-' :: digits, rfl, fun _ => rfl⟩
  · cases signed
    exact ⟨'+' :: digits, rfl, fun _ => rfl⟩
  · rename_i noMinus noPlus
    cases signed
    refine ⟨digits, rfl, fun rest => ?_⟩
    cases digits with
    | nil => exact absurd rfl present
    | cons digit others =>
        unfold Decimal.splitSign
        split
        · rename_i starts
          cases starts
          exact absurd rfl (noMinus _)
        · rename_i starts
          cases starts
          exact absurd rfl (noPlus _)
        · rfl

theorem scan_exponent_front {cs after : List Char} {power : Option Int} (solid : NoDigit cs)
    (scanned : scanExponent cs = .ok (power, after)) :
    NoDigit after ∧ ∃ front, cs = front ++ after ∧ ∀ rest, Ends rest →
      NoDigit (front ++ rest) ∧ NoPoint (front ++ rest) ∧ scanExponent (front ++ rest) = .ok (power, rest) := by
  have plain (rest : List Char) (ends : Ends rest) :
      NoDigit rest ∧ NoPoint rest ∧ scanExponent rest = .ok (none, rest) := by
    refine ⟨no_digit_of_ends ends, fun c first => (ends c first).2.1, ?_⟩
    cases rest with
    | nil => rfl
    | cons c rest =>
        have other := (ends c rfl).2.2
        simp [scanExponent, other.1, other.2]
  cases cs with
  | nil =>
      cases scanned
      exact ⟨solid, [], rfl, plain⟩
  | cons c cs =>
      rw [scanExponent] at scanned
      split at scanned
      · rename_i marked
        cases found : scanDigits (Decimal.splitSign cs).2 with
        | error e => simp [found, Except.map] at scanned
        | ok pair =>
            obtain ⟨taken, left⟩ := pair
            rw [found] at scanned
            cases scanned
            obtain ⟨split, present, all, stops⟩ := scan_digits_parts found
            obtain ⟨front, rfl, signed⟩ := split_sign_front (Prod.ext rfl split) present
            refine ⟨stops, c :: front, rfl, fun rest ends => ⟨fun d first => solid d first, ?_, ?_⟩⟩
            · rintro d ⟨⟩ rfl
              exact absurd marked (by decide)
            · rw [List.cons_append, scanExponent, if_pos marked, signed rest,
                scan_digits_front present all (no_digit_of_ends ends)]
              rfl
      · cases scanned
        exact ⟨solid, [], rfl, plain⟩

theorem scan_unsigned_front {negative : Bool} {cs after : List Char} {numeral : Decimal.Numeral}
    (scanned : scanUnsigned negative cs = .ok (numeral, after)) :
    NoDigit after ∧ ∃ front, cs = front ++ after ∧
      ∀ rest, Ends rest → scanUnsigned negative (front ++ rest) = .ok (numeral, rest) := by
  unfold scanUnsigned at scanned
  split at scanned
  · cases scanned
  · rename_i whole
    obtain ⟨wholeStops, front, rfl, wholeTaken⟩ := scan_whole_front whole
    split at scanned
    · cases scanned
    · rename_i fraction
      obtain ⟨fractionStops, fractionFront, rfl, fractionTaken⟩ := scan_fraction_front wholeStops fraction
      split at scanned
      · cases scanned
      · rename_i exponent
        cases scanned
        obtain ⟨stops, exponentFront, rfl, exponentTaken⟩ := scan_exponent_front fractionStops exponent
        refine ⟨stops, front ++ (fractionFront ++ exponentFront), by simp, fun rest ends => ?_⟩
        obtain ⟨noDigit, noPoint, exponentRead⟩ := exponentTaken rest ends
        obtain ⟨noDigit, fractionRead⟩ := fractionTaken _ noDigit noPoint
        rw [List.append_assoc, List.append_assoc, scanUnsigned, wholeTaken _ noDigit]
        dsimp only
        rw [fractionRead]
        dsimp only
        rw [exponentRead]

theorem scan_numeral_front {cs after : List Char} {numeral : Decimal.Numeral}
    (scanned : scanNumeral cs = .ok (numeral, after)) :
    NoDigit after ∧ ∃ front, cs = front ++ after ∧
      ∀ rest, Ends rest → scanNumeral (front ++ rest) = .ok (numeral, rest) := by
  unfold scanNumeral at scanned
  split at scanned
  · obtain ⟨stops, front, rfl, taken⟩ := scan_unsigned_front scanned
    exact ⟨stops, '-' :: front, rfl, taken⟩
  · rename_i unsigned
    obtain ⟨stops, front, rfl, taken⟩ := scan_unsigned_front scanned
    refine ⟨stops, front, rfl, fun rest ends => ?_⟩
    cases front with
    | nil => cases taken [] nofun
    | cons c front =>
        rw [List.cons_append, scanNumeral]
        · exact taken rest ends
        · rintro tail starts
          cases starts
          exact unsigned (front ++ after) rfl

end SqlFilter.Json
