import SqlFilter.Value.Calendar

/-!
# The order of time

Earlier and later, for dates, times of day and moments, and that of two different ones one is earlier.
-/

set_option autoImplicit false

namespace SqlFilter.Calendar

-- The days of a year up to the end of a month.
def daysThrough (year : Int) : Nat → Nat
  | 0 => 0
  | month + 1 => daysThrough year month + daysIn year (month + 1)

def Date.dayOfYear (d : Date) : Nat :=
  daysThrough d.year (d.month - 1) + d.day

/-- What is earlier in time: an earlier year, or an earlier day of the same year. -/
def Date.Before (a b : Date) : Prop :=
  a.year < b.year ∨ a.year = b.year ∧ a.dayOfYear < b.dayOfYear

-- A leap second is part of the second before it, which it makes longer.
def Time.secondOfDay (t : Time) : Nat :=
  (t.hour * 60 + t.minute) * 60 + t.second

def Time.Before (t u : Time) : Prop :=
  t.secondOfDay < u.secondOfDay ∨ t.secondOfDay = u.secondOfDay ∧ t.nano < u.nano

instance (t u : Time) : Decidable (t.Before u) :=
  inferInstanceAs (Decidable (_ ∨ _ ∧ _))

def MomentBefore (a : Date) (t : Time) (b : Date) (u : Time) : Prop :=
  a.Before b ∨ a = b ∧ t.Before u

/-- Years that are written with four digits and no sign. -/
def Date.FourDigits (d : Date) : Prop :=
  0 ≤ d.year ∧ d.year ≤ 9999

instance (d : Date) : Decidable d.FourDigits :=
  inferInstanceAs (Decidable (_ ∧ _))

section Days

theorem days_through_mono (year : Int) {early late : Nat} (before : early ≤ late) :
    daysThrough year early ≤ daysThrough year late := by
  induction before with
  | refl => exact Nat.le_refl _
  | step _ ih => exact Nat.le_trans ih (Nat.le_add_right _ _)

theorem later_month (a b : Date) (year : a.year = b.year) (month : a.month < b.month) :
    a.dayOfYear < b.dayOfYear := by
  obtain ⟨started, _⟩ := a.month_valid
  obtain ⟨_, inMonth⟩ := a.day_valid
  obtain ⟨present, _⟩ := b.day_valid
  obtain ⟨last, counted⟩ : ∃ last, a.month = last + 1 := ⟨a.month - 1, by omega⟩
  calc a.dayOfYear = daysThrough a.year last + a.day := by rw [Date.dayOfYear, counted, Nat.add_sub_cancel]
    _ ≤ daysThrough a.year last + daysIn a.year a.month := Nat.add_le_add_left inMonth _
    _ = daysThrough b.year a.month := by rw [counted, daysThrough, year]
    _ ≤ daysThrough b.year (b.month - 1) := days_through_mono _ (by omega)
    _ < b.dayOfYear := Nat.lt_add_of_pos_right present

theorem same_month (a b : Date) (year : a.year = b.year) (month : a.month = b.month) :
    a.dayOfYear < b.dayOfYear ↔ a.day < b.day := by
  rw [Date.dayOfYear, Date.dayOfYear, year, month]
  exact Nat.add_lt_add_iff_left

-- The order of days in a year is the order of months and of days in a month.
theorem date_before_iff (a b : Date) :
    a.Before b ↔ a.year < b.year ∨ a.year = b.year ∧ (a.month < b.month ∨ a.month = b.month ∧ a.day < b.day) := by
  refine or_congr_right (and_congr_right fun year => ?_)
  rcases Nat.lt_trichotomy a.month b.month with earlier | same | later
  · simp [later_month a b year earlier, earlier]
  · simp [same_month a b year same, same]
  · have after := later_month b a year.symm later
    omega

theorem date_ext {a b : Date} (year : a.year = b.year) (month : a.month = b.month) (day : a.day = b.day) : a = b := by
  cases a
  cases b
  cases year
  cases month
  cases day
  rfl

theorem date_total (a b : Date) : a.Before b ∨ a = b ∨ b.Before a := by
  rw [date_before_iff, date_before_iff]
  by_cases same : a.year = b.year ∧ a.month = b.month ∧ a.day = b.day
  · exact .inr (.inl (date_ext same.1 same.2.1 same.2.2))
  · omega

end Days

section Seconds

theorem time_before_iff (t u : Time) :
    t.Before u ↔ t.hour < u.hour ∨ t.hour = u.hour ∧ (t.minute < u.minute ∨ t.minute = u.minute ∧
      (t.second < u.second ∨ t.second = u.second ∧ t.nano < u.nano)) := by
  have minutes := t.minute_valid
  have seconds := t.second_valid
  have otherMinutes := u.minute_valid
  have otherSeconds := u.second_valid
  rw [Time.Before, Time.secondOfDay, Time.secondOfDay]
  omega

theorem time_ext {t u : Time} (hour : t.hour = u.hour) (minute : t.minute = u.minute) (second : t.second = u.second)
    (nano : t.nano = u.nano) : t = u := by
  cases t
  cases u
  cases hour
  cases minute
  cases second
  cases nano
  rfl

theorem time_total (t u : Time) : t.Before u ∨ t = u ∨ u.Before t := by
  rw [time_before_iff, time_before_iff]
  by_cases same : t.hour = u.hour ∧ t.minute = u.minute ∧ t.second = u.second ∧ t.nano = u.nano
  · exact .inr (.inl (time_ext same.1 same.2.1 same.2.2.1 same.2.2.2))
  · omega

theorem moment_total (a : Date) (t : Time) (b : Date) (u : Time) :
    MomentBefore a t b u ∨ (a = b ∧ t = u) ∨ MomentBefore b u a t := by
  rcases date_total a b with earlier | rfl | later
  · exact .inl (.inl earlier)
  · rcases time_total t u with earlier | rfl | later
    · exact .inl (.inr ⟨rfl, earlier⟩)
    · exact .inr (.inl ⟨rfl, rfl⟩)
    · exact .inr (.inr (.inr ⟨rfl, later⟩))
  · exact .inr (.inr (.inl later))

end Seconds

end SqlFilter.Calendar
