/-!
# Decimal digits

The digits of a number, and where a run of digits in a text ends.
-/

set_option autoImplicit false

namespace SqlFilter

theorem digit_of_mem (n : Nat) (c : Char) (member : c ∈ Nat.toDigits 10 n) : c.isDigit = true :=
  Nat.isDigit_of_mem_toDigits (by decide) (by decide) member

theorem digits_taken (digits rest : List Char) (all : ∀ c ∈ digits, c.isDigit = true)
    (breaks : ∀ c, rest.head? = some c → c.isDigit = false) :
    (digits ++ rest).takeWhile Char.isDigit = digits ∧ (digits ++ rest).dropWhile Char.isDigit = rest := by
  rw [List.takeWhile_append_of_pos all, List.dropWhile_append_of_pos all]
  cases rest with
  | nil => simp
  | cons c rest => simp [breaks c rfl]

theorem digits_exact (n : Nat) (rest : List Char) (breaks : ∀ c, rest.head? = some c → c.isDigit = false) :
    (Nat.toDigits 10 n ++ rest).takeWhile Char.isDigit = Nat.toDigits 10 n :=
  (digits_taken _ rest (digit_of_mem n) breaks).1

-- The last digit is cut off until one is left.
theorem leading_zero (n : Nat) (others : List Char) (zero : Nat.toDigits 10 n = '0' :: others) : n = 0 := by
  induction n using Nat.strongRecOn generalizing others with
  | ind n ih =>
      by_cases small : n < 10
      · have value := Nat.ofDigitChars_ten_toDigits (n := n)
        rw [Nat.toDigits_of_lt_base small] at zero value
        rw [(List.cons.inj zero).1] at value
        have none : Nat.ofDigitChars 10 ['0'] 0 = 0 := by decide
        exact value.symm.trans none
      · rw [Nat.toDigits_of_base_le (by decide) (Nat.le_of_not_lt small)] at zero
        cases front : Nat.toDigits 10 (n / 10) with
        | nil => exact absurd front Nat.toDigits_ne_nil
        | cons c digits =>
            rw [front, List.cons_append] at zero
            have none := ih (n / 10) (by omega) digits (by rw [front, (List.cons.inj zero).1])
            omega

end SqlFilter
