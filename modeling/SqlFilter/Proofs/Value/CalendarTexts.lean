import Mathlib.Algebra.GroupWithZero.Nat
import SqlFilter.Proofs.Digits
import SqlFilter.Proofs.Value.Chronology

/-!
# Calendar texts are in order

As bytes, the texts of dates, times and moments are in the order of time. Each field has a fixed width, and a longer
fraction only adds digits.
-/

set_option autoImplicit false

namespace SqlFilter.Calendar

section Fields

theorem digit_char_lt {m n : Nat} (less : m < n) (digit : n < 10) : m.digitChar < n.digitChar := by
  have low : m.digitChar.toNat = 48 + m := Nat.toNat_digitChar_of_lt_ten (by omega)
  have high : n.digitChar.toNat = 48 + n := Nat.toNat_digitChar_of_lt_ten digit
  rw [Char.lt_def, UInt32.lt_iff_toNat_lt]
  change m.digitChar.toNat < n.digitChar.toNat
  omega

theorem padded_succ (width n : Nat) (wide : 0 < width) :
    padded (width + 1) n = padded width (n / 10) ++ [(n % 10).digitChar] := by
  obtain ⟨width, rfl⟩ : ∃ rest, width = rest + 1 := ⟨width - 1, by omega⟩
  by_cases digit : n < 10
  · have front : Nat.toDigits 10 (n / 10) = ['0'] := by
      rw [Nat.div_eq_of_lt digit]
      rfl
    rw [padded, padded, front, Nat.toDigits_of_lt_base digit, Nat.mod_eq_of_lt digit]
    simp [List.replicate_succ']
  · rw [padded, padded, Nat.toDigits_of_base_le (by decide) (Nat.le_of_not_lt digit)]
    simp

-- Fields of one width compare as their numbers, whatever comes after them.
theorem padded_lt (width : Nat) {m n : Nat} (wide : 0 < width) (less : m < n) (fits : n < 10 ^ width)
    (x y : List Char) : padded width m ++ x < padded width n ++ y := by
  induction width generalizing m n x y with
  | zero => exact absurd wide (Nat.lt_irrefl 0)
  | succ width ih =>
      by_cases one : width = 0
      · subst one
        have digit : n < 10 := fits
        rw [padded, padded, Nat.toDigits_of_lt_base digit, Nat.toDigits_of_lt_base (Nat.lt_trans less digit)]
        exact List.cons_lt_cons_iff.mpr (.inl (digit_char_lt less digit))
      · have wide : 0 < width := Nat.pos_of_ne_zero one
        rw [padded_succ width m wide, padded_succ width n wide, List.append_assoc, List.append_assoc]
        by_cases front : m / 10 < n / 10
        · refine ih wide front ?_ _ _
          rw [Nat.pow_succ] at fits
          omega
        · have same : m / 10 = n / 10 := by omega
          have last : m % 10 < n % 10 := by omega
          rw [same]
          exact List.append_left_lt (List.cons_lt_cons_iff.mpr (.inl (digit_char_lt last (by omega))))

theorem padded_front (width more n : Nat) (wide : 0 < width) :
    ∃ tail, padded (width + more) n = padded width (n / 10 ^ more) ++ tail ∧ tail.length = more := by
  induction more generalizing n with
  | zero => exact ⟨[], by simp, rfl⟩
  | succ more ih =>
      obtain ⟨tail, front, length⟩ := ih (n / 10)
      refine ⟨tail ++ [(n % 10).digitChar], ?_, by simp [length]⟩
      rw [← Nat.add_assoc, padded_succ _ _ (by omega), front, List.append_assoc, Nat.div_div_eq_div_mul, Nat.pow_succ']

-- Digits after a point compare as the fractions that they are, however many there are of them. The shorter of two may
-- be where the longer begins, and is then the smaller fraction.
theorem shorter_fraction_lt {width more m n : Nat} (wide : 0 < width) (fits : n < 10 ^ (width + more))
    (less : m * 10 ^ more < n) : padded width m < padded (width + more) n := by
  obtain ⟨tail, front, length⟩ := padded_front width more n wide
  have most : m ≤ n / 10 ^ more := (Nat.le_div_iff_mul_le (Nat.pow_pos (by decide))).mpr (Nat.le_of_lt less)
  rw [front]
  rcases Nat.lt_or_eq_of_le most with smaller | same
  · have inFront : n / 10 ^ more < 10 ^ width := by
      rw [Nat.pow_add] at fits
      exact Nat.div_lt_of_lt_mul (Nat.mul_comm _ _ ▸ fits)
    have compared := padded_lt width wide smaller inFront [] tail
    rwa [List.append_nil] at compared
  · rw [← same]
    cases tail with
    | nil =>
        rw [← length, List.length_nil, Nat.pow_zero, Nat.div_one] at same
        rw [← length, List.length_nil, Nat.pow_zero, Nat.mul_one, same] at less
        exact absurd less (Nat.lt_irrefl n)
    | cons c tail =>
        have compared : padded width m ++ [] < padded width m ++ c :: tail :=
          List.append_left_lt (List.nil_lt_cons c tail)
        rwa [List.append_nil] at compared

theorem longer_fraction_lt {width more m n : Nat} (wide : 0 < width) (fits : n < 10 ^ width)
    (less : m < n * 10 ^ more) : padded (width + more) m < padded width n := by
  obtain ⟨tail, front, _⟩ := padded_front width more m wide
  have smaller : m / 10 ^ more < n := Nat.div_lt_of_lt_mul (Nat.mul_comm _ _ ▸ less)
  have compared := padded_lt width wide smaller fits tail []
  rwa [List.append_nil, ← front] at compared

theorem fraction_digits_lt {width other m n : Nat} (wide : 0 < width) (otherWide : 0 < other) (fits : n < 10 ^ other)
    (less : m * 10 ^ other < n * 10 ^ width) : padded width m < padded other n := by
  rcases Nat.le_total width other with shorter | longer
  · obtain ⟨more, rfl⟩ := Nat.exists_eq_add_of_le shorter
    rw [Nat.pow_add, Nat.mul_left_comm, Nat.mul_comm n] at less
    exact shorter_fraction_lt wide fits (Nat.lt_of_mul_lt_mul_left less)
  · obtain ⟨more, rfl⟩ := Nat.exists_eq_add_of_le longer
    rw [Nat.pow_add, Nat.mul_left_comm, Nat.mul_comm m] at less
    exact longer_fraction_lt otherWide fits (Nat.lt_of_mul_lt_mul_left less)

theorem fraction_text_digits {nano : Nat} (present : nano ≠ 0) (fits : nano < 10 ^ 9) :
    ∃ width digits, fractionText nano = '.' :: padded width digits ∧ 0 < width ∧ digits < 10 ^ width ∧
      digits * 10 ^ 9 = nano * 10 ^ width := by
  rw [fractionText, if_neg present]
  by_cases thousands : nano % 1000000 = 0
  · exact ⟨3, nano / 1000000, by rw [if_pos thousands], by decide, by omega, by omega⟩
  · rw [if_neg thousands]
    by_cases millions : nano % 1000 = 0
    · exact ⟨6, nano / 1000, by rw [if_pos millions], by decide, by omega, by omega⟩
    · exact ⟨9, nano, by rw [if_neg millions], by decide, fits, rfl⟩

theorem fraction_text_lt {m n : Nat} (less : m < n) (fits : n < 10 ^ 9) : fractionText m < fractionText n := by
  obtain ⟨width, digits, text, wide, inWidth, scaled⟩ := fraction_text_digits (by omega : n ≠ 0) fits
  rw [text]
  by_cases zero : m = 0
  · rw [fractionText, if_pos zero]
    exact List.nil_lt_cons _ _
  · obtain ⟨otherWidth, otherDigits, otherText, otherWide, _, otherScaled⟩ :=
      fraction_text_digits zero (Nat.lt_trans less fits)
    rw [otherText]
    refine List.cons_lt_cons_iff.mpr (.inr ⟨rfl, fraction_digits_lt otherWide wide inWidth ?_⟩)
    refine Nat.lt_of_mul_lt_mul_right (a := 10 ^ 9) ?_
    calc otherDigits * 10 ^ width * 10 ^ 9 = m * (10 ^ otherWidth * 10 ^ width) := by
          rw [Nat.mul_right_comm, otherScaled, Nat.mul_assoc]
      _ < n * (10 ^ otherWidth * 10 ^ width) :=
          Nat.mul_lt_mul_of_pos_right less (Nat.mul_pos (Nat.pow_pos (by decide)) (Nat.pow_pos (by decide)))
      _ = digits * 10 ^ otherWidth * 10 ^ 9 := by
          rw [Nat.mul_right_comm digits, scaled, Nat.mul_assoc, Nat.mul_comm (10 ^ width)]

end Fields

section Texts

-- A field decides the order of two texts, or leaves it to what comes after the mark behind it.
theorem field_lt (width : Nat) {m n : Nat} (wide : 0 < width) (fits : n < 10 ^ width) {x y : List Char}
    (less : m < n ∨ m = n ∧ x < y) : padded width m ++ x < padded width n ++ y := by
  rcases less with smaller | ⟨same, later⟩
  · exact padded_lt width wide smaller fits x y
  · rw [same]
    exact List.append_left_lt later

theorem mark_lt (c : Char) {x y : List Char} (less : x < y) : c :: x < c :: y :=
  List.cons_lt_cons_iff.mpr (.inr ⟨rfl, less⟩)

theorem year_text_padded {d : Date} (years : d.FourDigits) : yearText d.year = padded 4 d.year.toNat := by
  rw [Date.FourDigits] at years
  rw [yearText, if_pos (by simpa using years)]

theorem day_small (d : Date) : d.day ≤ 31 := by
  have most : daysIn d.year d.month ≤ 31 := by
    unfold daysIn
    split
    · split <;> decide
    · split <;> decide
  exact Nat.le_trans d.day_valid.2 most

theorem date_text_lt {a b : Date} (years : a.FourDigits) (otherYears : b.FourDigits) {x y : List Char}
    (before : a.Before b ∨ a = b ∧ x < y) : a.text ++ x < b.text ++ y := by
  rcases before with before | ⟨rfl, less⟩
  · have lastMonth := b.month_valid.2
    have lastDay := day_small b
    have day (less : a.day < b.day) : padded 2 a.day ++ x < padded 2 b.day ++ y :=
      field_lt 2 (by decide) (by omega) (.inl less)
    have month (less : a.month < b.month ∨ a.month = b.month ∧ a.day < b.day) :
        padded 2 a.month ++ '-' :: (padded 2 a.day ++ x) < padded 2 b.month ++ '-' :: (padded 2 b.day ++ y) :=
      field_lt 2 (by decide) (by omega) (less.imp_right fun rest => ⟨rest.1, mark_lt '-' (day rest.2)⟩)
    rw [date_before_iff] at before
    simp only [Date.text, year_text_padded years, year_text_padded otherYears, List.append_assoc, List.cons_append]
    rw [Date.FourDigits] at years otherYears
    refine field_lt 4 (by decide) (by omega) (before.imp (by omega) fun rest => ⟨by rw [rest.1], ?_⟩)
    exact mark_lt '-' (month rest.2)
  · exact List.append_left_lt less

def Time.secondText (t : Time) : List Char :=
  padded 2 (t.second + t.nano / 1000000000) ++ fractionText (t.nano % 1000000000)

-- Second 60 comes after all of second 59, and before the minute that follows.
theorem second_text_lt {t u : Time} (before : t.second < u.second ∨ t.second = u.second ∧ t.nano < u.nano) :
    t.secondText < u.secondText := by
  have seconds := u.second_valid
  have nanos := t.nano_valid
  have otherNanos := u.nano_valid
  refine field_lt 2 (by decide) (by omega) ?_
  by_cases shown : t.second + t.nano / 1000000000 < u.second + u.nano / 1000000000
  · exact .inl shown
  · have fraction : t.nano % 1000000000 < u.nano % 1000000000 := by omega
    exact .inr ⟨by omega, fraction_text_lt fraction (Nat.mod_lt _ (by decide))⟩

theorem time_text_lt {t u : Time} (before : t.Before u) : t.text < u.text := by
  have hours := u.hour_valid
  have minutes := u.minute_valid
  have minute (less : t.minute < u.minute ∨ t.minute = u.minute ∧
      (t.second < u.second ∨ t.second = u.second ∧ t.nano < u.nano)) :
      padded 2 t.minute ++ ':' :: t.secondText < padded 2 u.minute ++ ':' :: u.secondText :=
    field_lt 2 (by decide) (by omega) (less.imp_right fun rest => ⟨rest.1, mark_lt ':' (second_text_lt rest.2)⟩)
  rw [time_before_iff] at before
  simp only [Time.text, List.append_assoc, List.cons_append]
  exact field_lt 2 (by decide) (by omega) (before.imp_right fun rest => ⟨rest.1, mark_lt ':' (minute rest.2)⟩)

theorem moment_text_lt {a b : Date} {t u : Time} (years : a.FourDigits) (otherYears : b.FourDigits)
    (before : MomentBefore a t b u) : momentText a t < momentText b u :=
  date_text_lt years otherYears (before.imp_right fun rest => ⟨rest.1, mark_lt 'T' (time_text_lt rest.2)⟩)

end Texts

section Bytes

-- The bytes that a text is stored and compared as.
def bytes (s : String) : List UInt8 :=
  s.toUTF8.data.toList

def Ascii (cs : List Char) : Prop :=
  ∀ c ∈ cs, c.val ≤ 127

theorem bytes_of_list (cs : List Char) : bytes (String.ofList cs) = cs.flatMap String.utf8EncodeChar := by
  simp [bytes, String.toUTF8, List.utf8Encode]

theorem bytes_ascii {cs : List Char} (ascii : Ascii cs) :
    bytes (String.ofList cs) = cs.map fun c => c.val.toUInt8 := by
  rw [bytes_of_list, List.map_eq_flatMap]
  induction cs with
  | nil => rfl
  | cons c cs ih =>
      obtain ⟨first, others⟩ := List.forall_mem_cons.mp ascii
      rw [List.flatMap_cons, List.flatMap_cons, ih others,
        String.utf8EncodeChar_eq_singleton (Char.utf8Size_eq_one_iff.mpr first)]

theorem bytes_lt {a b : List Char} (ascii : Ascii a) (otherAscii : Ascii b) (less : a < b) :
    bytes (String.ofList a) < bytes (String.ofList b) := by
  rw [bytes_ascii ascii, bytes_ascii otherAscii]
  induction a generalizing b with
  | nil =>
      cases b with
      | nil => exact absurd less (List.not_lt_nil [])
      | cons d b => exact List.nil_lt_cons _ _
  | cons c a ih =>
      cases b with
      | nil => exact absurd less (List.not_lt_nil _)
      | cons d b =>
          obtain ⟨first, others⟩ := List.forall_mem_cons.mp ascii
          obtain ⟨otherFirst, otherOthers⟩ := List.forall_mem_cons.mp otherAscii
          refine List.cons_lt_cons_iff.mpr ?_
          rcases List.cons_lt_cons_iff.mp less with smaller | ⟨same, later⟩
          · refine .inl ?_
            rw [Char.lt_def, UInt32.lt_iff_toNat_lt] at smaller
            rw [UInt32.le_iff_toNat_le] at first otherFirst
            rw [UInt8.lt_iff_toNat_lt, UInt32.toNat_toUInt8, UInt32.toNat_toUInt8]
            change c.val.toNat ≤ 127 at first
            change d.val.toNat ≤ 127 at otherFirst
            omega
          · exact .inr ⟨by rw [same], ih others otherOthers later⟩

theorem ascii_append {a b : List Char} (first : Ascii a) (second : Ascii b) : Ascii (a ++ b) :=
  List.forall_mem_append.mpr ⟨first, second⟩

theorem ascii_cons {c : Char} {cs : List Char} (first : c.val ≤ 127) (others : Ascii cs) : Ascii (c :: cs) :=
  List.forall_mem_cons.mpr ⟨first, others⟩

theorem padded_ascii (width n : Nat) : Ascii (padded width n) := by
  refine ascii_append (fun c member => ?_) fun c member => ?_
  · rw [List.eq_of_mem_replicate member]
    decide
  · have digit := digit_of_mem n c member
    simp only [Char.isDigit, Bool.and_eq_true, decide_eq_true_eq] at digit
    exact UInt32.le_trans digit.2 (by decide)

theorem fraction_ascii (nano : Nat) : Ascii (fractionText nano) := by
  unfold fractionText
  split
  · nofun
  · split
    · exact ascii_cons (by decide) (padded_ascii _ _)
    · split
      · exact ascii_cons (by decide) (padded_ascii _ _)
      · exact ascii_cons (by decide) (padded_ascii _ _)

theorem date_ascii (d : Date) : Ascii d.text := by
  have year : Ascii (yearText d.year) := by
    unfold yearText
    split
    · exact padded_ascii _ _
    · split
      · exact ascii_cons (by decide) (padded_ascii _ _)
      · exact ascii_cons (by decide) (padded_ascii _ _)
  exact ascii_append (ascii_append year (ascii_cons (by decide) (padded_ascii _ _)))
    (ascii_cons (by decide) (padded_ascii _ _))

theorem time_ascii (t : Time) : Ascii t.text :=
  ascii_append (ascii_append (ascii_append (padded_ascii _ _) (ascii_cons (by decide) (padded_ascii _ _)))
    (ascii_cons (by decide) (padded_ascii _ _))) (fraction_ascii _)

theorem moment_ascii (d : Date) (t : Time) : Ascii (momentText d t) :=
  ascii_append (date_ascii d) (ascii_cons (by decide) (time_ascii t))

end Bytes

end SqlFilter.Calendar

namespace SqlFilter.Value

open Calendar

/-- Two values that are texts. Their bytes are in order as earlier and later are, and only what is the same has one
text. -/
def InOrder (first second : Value) (earlier same : Prop) : Prop :=
  ∃ s t, first = .string s ∧ second = .string t ∧ (bytes s < bytes t ↔ earlier) ∧ (s = t ↔ same)

theorem in_order {a b : List Char} {earlier same later : Prop} (ascii : Ascii a) (otherAscii : Ascii b)
    (total : earlier ∨ same ∨ later) (less : earlier → a < b) (alike : same → a = b) (greater : later → b < a) :
    InOrder (.string (String.ofList a)) (.string (String.ofList b)) earlier same := by
  have before (first : earlier) := bytes_lt ascii otherAscii (less first)
  have after (second : later) := bytes_lt otherAscii ascii (greater second)
  refine ⟨_, _, rfl, rfl, ⟨fun smaller => ?_, before⟩, fun equal => ?_, fun kept => by rw [alike kept]⟩
  · rcases total with first | kept | second
    · exact first
    · rw [alike kept] at smaller
      exact absurd smaller (List.lt_irrefl _)
    · exact absurd smaller (List.lt_asymm (after second))
  · rcases total with first | kept | second
    · exact absurd (equal ▸ before first) (List.lt_irrefl _)
    · exact kept
    · exact absurd (equal ▸ after second) (List.lt_irrefl _)

/-- Byte order is the order in time, although fractions of a second have texts of four lengths, and a leap second has
the number that no other second has. -/
theorem calendar_texts_in_order :
    (∀ a b : Date, a.FourDigits → b.FourDigits → InOrder (ofDate a) (ofDate b) (a.Before b) (a = b)) ∧
      (∀ t u : Time, InOrder (ofTime t) (ofTime u) (t.Before u) (t = u)) ∧
      ∀ (a b : Date) (t u : Time), a.FourDigits → b.FourDigits →
        InOrder (ofMoment a t) (ofMoment b u) (MomentBefore a t b u) (a = b ∧ t = u) := by
  refine ⟨fun a b years otherYears => ?_, fun t u => ?_, fun a b t u years otherYears => ?_⟩
  · have date {a b : Date} (years : a.FourDigits) (otherYears : b.FourDigits) (before : a.Before b) :
        a.text < b.text := by
      have compared := date_text_lt years otherYears (x := []) (y := []) (.inl before)
      rwa [List.append_nil, List.append_nil] at compared
    exact in_order (date_ascii a) (date_ascii b) (date_total a b) (date years otherYears) (congrArg Date.text)
      (date otherYears years)
  · exact in_order (time_ascii t) (time_ascii u) (time_total t u) time_text_lt (congrArg Time.text) time_text_lt
  · refine in_order (moment_ascii a t) (moment_ascii b u) (moment_total a t b u) (moment_text_lt years otherYears) ?_
      (moment_text_lt otherYears years)
    rintro ⟨rfl, rfl⟩
    rfl

def newYearsEve : Date :=
  ⟨9999, 12, 31, by decide, by decide⟩

def lastHalf : Time :=
  ⟨23, 59, 59, 500000000, by decide, by decide, by decide, by decide⟩

def lastHalfAndMore : Time :=
  ⟨23, 59, 59, 500000001, by decide, by decide, by decide, by decide⟩

def inLeapSecond : Time :=
  ⟨23, 59, 59, 1000000000, by decide, by decide, by decide, by decide⟩

theorem fractions_then_leap_second :
    newYearsEve.FourDigits ∧ bytes "9999-12-31T23:59:59.500" < bytes "9999-12-31T23:59:59.500000001" ∧
      bytes "9999-12-31T23:59:59.500000001" < bytes "9999-12-31T23:59:60" := by
  have years : newYearsEve.FourDigits := by decide
  obtain ⟨_, _, moments⟩ := calendar_texts_in_order
  obtain ⟨s, t, first, second, fractions, _⟩ := moments newYearsEve newYearsEve lastHalf lastHalfAndMore years years
  obtain ⟨u, v, third, fourth, leap, _⟩ := moments newYearsEve newYearsEve lastHalfAndMore inLeapSecond years years
  cases first
  cases second
  cases third
  cases fourth
  exact ⟨years, fractions.mpr (.inr ⟨rfl, by decide⟩), leap.mpr (.inr ⟨rfl, by decide⟩)⟩

end SqlFilter.Value
