import SqlFilter.Proofs.Decimal.Shortest
import SqlFilter.Proofs.Json.Spacing

/-!
# Texts of doubles

The text of a double, in either of its forms, is a numeral with the digits and the power that it was written from.
-/

set_option autoImplicit false

namespace SqlFilter

namespace Decimal

-- What a numeral stands for, but for its sign.
def Numeral.magnitude (n : Numeral) : ℚ :=
  n.digits * 10 ^ n.power

theorem of_digits_zeros (n count : Nat) :
    Nat.ofDigitChars 10 (List.replicate count '0') n = n * 10 ^ count := by
  induction count generalizing n with
  | zero => simp
  | succ count ih =>
      rw [List.replicate_succ, Nat.ofDigitChars_cons, ih, Nat.sub_self, Nat.add_zero, Nat.pow_succ]
      ring

theorem parts_bounded {x : Float} {negative : Bool} {m : Nat} {q : Int} (finite : parts x = .finite negative m q) :
    m < 2 ^ 53 := by
  have low : x.toBits.toNat % Nat.pow 2 52 < 2 ^ 52 := Nat.mod_lt _ (by decide)
  unfold parts at finite
  dsimp only at finite
  split at finite
  · split at finite <;> cases finite
  · split at finite
    · cases finite
      omega
    · cases finite
      have lead : Nat.pow 2 52 = 2 ^ 52 := rfl
      omega

end Decimal

namespace Json

open Decimal (Numeral Scaled Layout)

def Digits (cs : List Char) : Prop :=
  cs ≠ [] ∧ ∀ c ∈ cs, c.isDigit = true

-- A zero stands alone before the point.
def Unpadded (cs : List Char) : Prop :=
  ∀ others, cs = '0' :: others → others = []

theorem to_digits_digits (n : Nat) : Digits (Nat.toDigits 10 n) :=
  ⟨Nat.toDigits_ne_nil, digit_of_mem n⟩

theorem zeros_digits {cs : List Char} (digits : Digits cs) (count : Nat) : Digits (cs ++ List.replicate count '0') := by
  refine ⟨fun empty => digits.1 (List.append_eq_nil_iff.mp empty).1, List.forall_mem_append.mpr ⟨digits.2, ?_⟩⟩
  intro c member
  rw [List.eq_of_mem_replicate member]
  rfl

theorem to_digits_unpadded {n : Nat} (nonzero : n ≠ 0) (rest : List Char) : Unpadded (Nat.toDigits 10 n ++ rest) := by
  intro others zero
  cases digits : Nat.toDigits 10 n with
  | nil => exact absurd digits Nat.toDigits_ne_nil
  | cons c front =>
      rw [digits, List.cons_append] at zero
      rw [(List.cons.inj zero).1] at digits
      exact absurd (leading_zero n front digits) nonzero

theorem scan_whole_digits {whole rest : List Char} (digits : Digits whole) (unpadded : Unpadded whole)
    (noDigit : NoDigit rest) : scanWhole (whole ++ rest) = .ok (whole, rest) := by
  rw [scanWhole, scan_digits_front digits.1 digits.2 noDigit]
  split
  · rename_i others after scanned
    cases unpadded _ (Prod.mk.inj (Except.ok.inj scanned)).1
  · rfl

def fractionChars (fraction : Option (List Char)) : List Char :=
  fraction.elim [] ('.' :: ·)

theorem fraction_no_digit (fraction : Option (List Char)) {rest : List Char} (noDigit : NoDigit rest) :
    NoDigit (fractionChars fraction ++ rest) := by
  cases fraction with
  | none => exact noDigit
  | some digits =>
      rintro c ⟨⟩
      rfl

theorem scan_fraction_chars {fraction : Option (List Char)} {rest : List Char}
    (digits : ∀ cs ∈ fraction, Digits cs) (noDigit : NoDigit rest) (noPoint : NoPoint rest) :
    scanFraction (fractionChars fraction ++ rest) = .ok (fraction, rest) := by
  cases fraction with
  | none =>
      change scanFraction rest = _
      unfold scanFraction
      split
      · exact absurd rfl (noPoint '.' rfl)
      · rfl
  | some cs =>
      obtain ⟨present, all⟩ := digits cs rfl
      change scanFraction ('.' :: (cs ++ rest)) = _
      rw [scanFraction, scan_digits_front present all noDigit]
      rfl

def exponentChars (power : Int) : List Char :=
  'e' :: (if power < 0 then '-' else '+') :: Nat.toDigits 10 power.natAbs

-- What may come after the digits of a numeral.
structure Finishes (rest : List Char) (exponent : Option Int) : Prop where
  noDigit : NoDigit rest
  noPoint : NoPoint rest
  scanned : scanExponent rest = .ok (exponent, [])

theorem nothing_finishes : Finishes [] none :=
  ⟨nofun, nofun, rfl⟩

theorem exponent_finishes (power : Int) : Finishes (exponentChars power) (some power) := by
  refine ⟨?_, ?_, ?_⟩
  · rintro c ⟨⟩
    rfl
  · rintro c ⟨⟩
    decide
  · have digits : scanDigits (Nat.toDigits 10 power.natAbs) = .ok (Nat.toDigits 10 power.natAbs, []) := by
      have taken := scan_digits_exact power.natAbs [] nofun
      rwa [List.append_nil] at taken
    rw [exponentChars, scanExponent, if_pos (by decide)]
    by_cases negative : power < 0
    · rw [if_pos negative, Decimal.splitSign, digits]
      simp only [Except.map, if_true, Nat.ofDigitChars_ten_toDigits]
      congr 3
      omega
    · rw [if_neg negative, Decimal.splitSign, digits]
      simp only [Except.map, Bool.false_eq_true, if_false, Nat.ofDigitChars_ten_toDigits]
      congr 3
      omega

-- A text that is a numeral with this sign and this value.
structure Spells (text : List Char) (negative : Bool) (value : ℚ) (numeral : Numeral) : Prop where
  scanned : scanUnsigned negative text = .ok (numeral, [])
  signed : numeral.negative = negative
  worth : numeral.magnitude = value

section Decimals

variable (negative : Bool) (d : Scaled)

theorem parts_spelled {whole : List Char} {fraction : Option (List Char)} {rest : List Char} {exponent : Option Int}
    (digits : Digits whole) (unpadded : Unpadded whole) (fractionDigits : ∀ cs ∈ fraction, Digits cs)
    (finishes : Finishes rest exponent) {value : ℚ}
    (worth : (Scaled.mk (Nat.ofDigitChars 10 (whole ++ fraction.getD []) 0)
      (exponent.getD 0 - (fraction.getD []).length)).value = value) :
    ∃ numeral, Spells (whole ++ (fractionChars fraction ++ rest)) negative value numeral := by
  refine ⟨⟨negative, whole, fraction, exponent⟩, ?_, rfl, worth⟩
  rw [scanUnsigned, scan_whole_digits digits unpadded (fraction_no_digit fraction finishes.noDigit)]
  dsimp only
  rw [scan_fraction_chars fractionDigits finishes.noDigit finishes.noPoint]
  dsimp only
  rw [finishes.scanned]

theorem some_digits {cs : List Char} (digits : Digits cs) : ∀ fraction ∈ some cs, Digits fraction := by
  rintro fraction ⟨⟩
  exact digits

-- A value below one, with zeros right after the point.
theorem below_one_spelled (first : Int) (place : first = d.exponent + (Nat.toDigits 10 d.digits).length - 1)
    (small : first < 0) :
    ∃ numeral, Spells (Layout.positionalText true (Nat.toDigits 10 d.digits) first) negative d.value numeral := by
  have zeros : Digits (List.replicate (-first - 1).toNat '0' ++ Nat.toDigits 10 d.digits) := by
    refine ⟨fun empty => Nat.toDigits_ne_nil (List.append_eq_nil_iff.mp empty).2, List.forall_mem_append.mpr ⟨?_, ?_⟩⟩
    · intro c member
      rw [List.eq_of_mem_replicate member]
      rfl
    · exact digit_of_mem d.digits
  have text : Layout.positionalText true (Nat.toDigits 10 d.digits) first =
      ['0'] ++ (fractionChars (some (List.replicate (-first - 1).toNat '0' ++ Nat.toDigits 10 d.digits)) ++ []) := by
    rw [Layout.positionalText, if_pos small]
    simp [fractionChars]
  rw [text]
  apply parts_spelled negative ⟨List.cons_ne_nil _ _, by simp⟩ _ (some_digits zeros) nothing_finishes
  · have digits : Nat.ofDigitChars 10 (['0'] ++ (List.replicate (-first - 1).toNat '0' ++ Nat.toDigits 10 d.digits)) 0 =
        d.digits := by
      rw [Nat.ofDigitChars_append, Nat.ofDigitChars_append, Decimal.of_digits_zeros]
      simp [Nat.ofDigitChars_cons]
    have power :
        (0 : Int) - (List.replicate (-first - 1).toNat '0' ++ Nat.toDigits 10 d.digits).length = d.exponent := by
      rw [List.length_append, List.length_replicate]
      omega
    rw [Option.getD_some, digits, Option.getD_none, power]
  · rintro others ⟨⟩
    rfl

-- A whole value, with zeros up to the point.
theorem whole_spelled (first : Int) (place : first = d.exponent + (Nat.toDigits 10 d.digits).length - 1)
    (large : ¬first < 0) (whole : (Nat.toDigits 10 d.digits).length ≤ first.toNat + 1)
    (lead : d.digits = 0 → d.exponent = 0) :
    ∃ numeral, Spells (Layout.positionalText true (Nat.toDigits 10 d.digits) first) negative d.value numeral := by
  have text : Layout.positionalText true (Nat.toDigits 10 d.digits) first =
      (Nat.toDigits 10 d.digits ++ List.replicate d.exponent.toNat '0') ++ (fractionChars (some ['0']) ++ []) := by
    have count : first.toNat + 1 - (Nat.toDigits 10 d.digits).length = d.exponent.toNat := by omega
    rw [Layout.positionalText, if_neg large]
    dsimp only
    rw [if_pos whole, count, if_pos rfl]
    rfl
  rw [text]
  apply parts_spelled negative (zeros_digits (to_digits_digits d.digits) _) _
    (some_digits ⟨List.cons_ne_nil _ _, by simp⟩) nothing_finishes
  · have digits : Nat.ofDigitChars 10 ((Nat.toDigits 10 d.digits ++ List.replicate d.exponent.toNat '0') ++ ['0']) 0 =
        d.digits * 10 ^ (d.exponent.toNat + 1) := by
      have zeros := Decimal.of_digits_zeros d.digits (d.exponent.toNat + 1)
      rw [List.append_assoc, ← List.replicate_succ', Nat.ofDigitChars_append, Nat.ofDigitChars_ten_toDigits, zeros]
    have power : (0 : Int) - (['0'] : List Char).length + (d.exponent.toNat + 1 : Nat) = d.exponent := by
      simp only [List.length_singleton]
      omega
    rw [Option.getD_some, digits, Option.getD_none, Decimal.value_shift, power]
  · by_cases zero : d.digits = 0
    · rw [zero, lead zero]
      rintro others ⟨⟩
      rfl
    · exact to_digits_unpadded zero _

-- A value with a point among its digits.
theorem split_spelled (first : Int) (place : first = d.exponent + (Nat.toDigits 10 d.digits).length - 1)
    (large : ¬first < 0) (part : ¬(Nat.toDigits 10 d.digits).length ≤ first.toNat + 1)
    (nonzero : d.digits ≠ 0) :
    ∃ numeral, Spells (Layout.positionalText true (Nat.toDigits 10 d.digits) first) negative d.value numeral := by
  obtain ⟨whole, fraction, split, count⟩ : ∃ whole fraction, Nat.toDigits 10 d.digits = whole ++ fraction ∧
      whole.length = first.toNat + 1 :=
    ⟨_, _, (List.take_append_drop (first.toNat + 1) _).symm, by rw [List.length_take]; omega⟩
  have lengths := congrArg List.length split
  rw [List.length_append] at lengths
  have all := digit_of_mem d.digits
  rw [split] at all
  obtain ⟨wholeDigits, fractionDigits⟩ := List.forall_mem_append.mp all
  have text : Layout.positionalText true (Nat.toDigits 10 d.digits) first =
      whole ++ (fractionChars (some fraction) ++ []) := by
    rw [Layout.positionalText, if_neg large]
    dsimp only
    rw [if_neg part, split, List.take_left' count, List.drop_left' count, List.append_nil]
    rfl
  rw [text]
  apply parts_spelled negative ⟨List.ne_nil_of_length_pos (by omega), wholeDigits⟩ _
    (some_digits ⟨List.ne_nil_of_length_pos (by omega), fractionDigits⟩) nothing_finishes
  · have power : (0 : Int) - fraction.length = d.exponent := by omega
    rw [Option.getD_some, ← split, Nat.ofDigitChars_ten_toDigits, Option.getD_none, power]
  · intro others zero
    have unpadded := to_digits_unpadded nonzero [] (others ++ fraction) (by rw [List.append_nil, split, zero]; rfl)
    exact (List.append_eq_nil_iff.mp unpadded).1

-- A value with an exponent.
theorem exponent_spelled (first : Int) (place : first = d.exponent + (Nat.toDigits 10 d.digits).length - 1) :
    ∃ numeral, Spells (Layout.exponentText (Nat.toDigits 10 d.digits) first) negative d.value numeral := by
  cases digits : Nat.toDigits 10 d.digits with
  | nil => exact absurd digits Nat.toDigits_ne_nil
  | cons c fraction =>
      have all := digit_of_mem d.digits
      rw [digits] at all place
      obtain ⟨digit, others⟩ := List.forall_mem_cons.mp all
      have unpadded : Unpadded [c] := by
        rintro rest same
        exact (List.cons.inj same).2.symm
      obtain ⟨tail, spelled, tailDigits, tailText⟩ : ∃ tail : Option (List Char), tail.getD [] = fraction ∧
          (∀ cs ∈ tail, Digits cs) ∧
            fractionChars tail = if (c :: fraction).length ≤ 1 then [] else '.' :: fraction := by
        cases fraction with
        | nil => exact ⟨none, rfl, nofun, rfl⟩
        | cons next fraction => exact ⟨some (next :: fraction), rfl, some_digits ⟨List.cons_ne_nil _ _, others⟩, rfl⟩
      have text : Layout.exponentText (c :: fraction) first = [c] ++ (fractionChars tail ++ exponentChars first) := by
        rw [tailText, Layout.exponentText]
        simp [exponentChars]
      rw [text]
      apply parts_spelled negative ⟨List.cons_ne_nil _ _, by simpa using digit⟩ unpadded tailDigits
        (exponent_finishes first)
      have power : first - fraction.length = d.exponent := by
        rw [List.length_cons] at place
        omega
      rw [spelled, List.singleton_append, ← digits, Nat.ofDigitChars_ten_toDigits, Option.getD_some, power]

theorem unsigned_spelled (lead : d.digits = 0 → d.exponent = 0) :
    ∃ numeral, Spells (Number.layout.unsigned (Nat.toDigits 10 d.digits)
      (d.exponent + (Nat.toDigits 10 d.digits).length - 1)) negative d.value numeral := by
  generalize place : d.exponent + (Nat.toDigits 10 d.digits).length - 1 = first
  have text : Number.layout.unsigned (Nat.toDigits 10 d.digits) first =
      if (-5 : Int) ≤ first && first ≤ (15 : Int) then Layout.positionalText true (Nat.toDigits 10 d.digits) first
      else Layout.exponentText (Nat.toDigits 10 d.digits) first := rfl
  rw [text]
  split
  · by_cases small : first < 0
    · exact below_one_spelled negative d first place.symm small
    · by_cases whole : (Nat.toDigits 10 d.digits).length ≤ first.toNat + 1
      · exact whole_spelled negative d first place.symm small whole lead
      · have nonzero : d.digits ≠ 0 := by
          intro zero
          rw [zero, Nat.toDigits_zero] at whole
          exact whole (by simp)
        exact split_spelled negative d first place.symm small whole nonzero
  · exact exponent_spelled negative d first place.symm

end Decimals

theorem scan_numeral_signed (negative : Bool) (body : List Char) {numeral : Numeral}
    (scanned : scanUnsigned negative body = .ok (numeral, [])) :
    scanNumeral (if negative then '-' :: body else body) = .ok (numeral, []) := by
  cases negative with
  | true => exact scanned
  | false =>
      obtain ⟨c, rest, rfl, digit⟩ := scan_unsigned_starts scanned
      rw [if_neg (by decide), scanNumeral]
      · exact scanned
      · rintro tail starts
        rw [(List.cons.inj starts).1] at digit
        exact absurd digit (by decide)

-- A finite double is written as a numeral that is rounded to it again.
theorem double_scanned {x : Float} {negative : Bool} {m : Nat} {q : Int}
    (finite : Decimal.parts x = .finite negative m q) :
    ∃ numeral : Numeral, scanNumeral (Number.float x).write.toList = .ok (numeral, []) ∧ numeral.negative = negative ∧
      Decimal.RoundsTo m q numeral.magnitude := by
  generalize written : (if m = 0 then ⟨0, 0⟩ else Decimal.shortest .even m q : Scaled) = d
  have rounds : Decimal.RoundsTo m q d.value := by
    rw [← written]
    by_cases zero : m = 0
    · rw [if_pos zero, zero]
      have nothing : (Scaled.mk 0 0).value = 0 := by simp [Scaled.value]
      rw [nothing]
      exact Decimal.zero_rounds q
    · rw [if_neg zero]
      exact Decimal.shortest_rounds .even m q (Nat.pos_of_ne_zero zero) (Decimal.parts_bounded finite)
  have lead : d.digits = 0 → d.exponent = 0 := by
    intro none
    by_cases zero : m = 0
    · rw [← written, if_pos zero]
    · have above := Decimal.rounds_positive (Nat.pos_of_ne_zero zero) rounds
      rw [Scaled.value, none, Nat.cast_zero, zero_mul] at above
      exact absurd above (lt_irrefl 0)
  obtain ⟨numeral, spells⟩ := unsigned_spelled negative d lead
  refine ⟨numeral, ?_, spells.signed, ?_⟩
  · have text : (Number.float x).write.toList = if negative then
        '-' :: Number.layout.unsigned (Nat.toDigits 10 d.digits) (d.exponent + (Nat.toDigits 10 d.digits).length - 1)
        else Number.layout.unsigned (Nat.toDigits 10 d.digits)
          (d.exponent + (Nat.toDigits 10 d.digits).length - 1) := by
      rw [Number.write, Layout.write, finite, ← String.toList_ofList (l := ite _ _ _), ← written]
      rfl
    rw [text]
    exact scan_numeral_signed negative _ spells.scanned
  · rw [spells.worth]
    exact rounds

end Json

end SqlFilter
