import SqlFilter.Value.Basic

/-!
Days, times of day and moments, and the ISO texts they become as operands.

A leap second comes after second 59 here. One after another second, which a time can still be given by setting its
nanoseconds afterwards, is left out of `Time`: it would be written as the second that follows.
-/

set_option autoImplicit false

namespace SqlFilter

namespace Calendar

def isLeapYear (year : Int) : Bool :=
  year % 4 == 0 && (year % 100 != 0 || year % 400 == 0)

def daysIn (year : Int) (month : Nat) : Nat :=
  if month = 2 then if isLeapYear year then 29 else 28
  else if month = 4 || month = 6 || month = 9 || month = 11 then 30
  else 31

structure Date where
  year : Int
  month : Nat
  day : Nat
  month_valid : 1 ≤ month ∧ month ≤ 12
  day_valid : 1 ≤ day ∧ day ≤ daysIn year month

def Date.of? (year : Int) (month day : Nat) : Option Date :=
  if monthValid : 1 ≤ month ∧ month ≤ 12 then
    if dayValid : 1 ≤ day ∧ day ≤ daysIn year month then some ⟨year, month, day, monthValid, dayValid⟩ else none
  else none

-- A time of day to the nanosecond. Nanoseconds from a thousand million on belong to the leap second after second 59.
structure Time where
  hour : Nat
  minute : Nat
  second : Nat
  nano : Nat
  hour_valid : hour < 24
  minute_valid : minute < 60
  second_valid : second < 60
  nano_valid : nano < 1000000000 ∨ second = 59 ∧ nano < 2000000000

def Time.of? (hour minute second nano : Nat) : Option Time :=
  if valid : hour < 24 ∧ minute < 60 ∧ second < 60 ∧ (nano < 1000000000 ∨ second = 59 ∧ nano < 2000000000) then
    some ⟨hour, minute, second, nano, valid.1, valid.2.1, valid.2.2.1, valid.2.2.2⟩
  else none

def padded (width n : Nat) : List Char :=
  let digits := Nat.toDigits 10 n
  List.replicate (width - digits.length) '0' ++ digits

def yearText (year : Int) : List Char :=
  if 0 ≤ year && year ≤ 9999 then padded 4 year.toNat
  else (if year < 0 then '-' else '+') :: padded 4 year.natAbs

-- A fraction of a second: nothing for zero, else three, six or nine digits, the fewest that are exact.
def fractionText (nano : Nat) : List Char :=
  if nano = 0 then []
  else if nano % 1000000 = 0 then '.' :: padded 3 (nano / 1000000)
  else if nano % 1000 = 0 then '.' :: padded 6 (nano / 1000)
  else '.' :: padded 9 nano

def Date.text (d : Date) : List Char :=
  yearText d.year ++ '-' :: padded 2 d.month ++ '-' :: padded 2 d.day

def Time.text (t : Time) : List Char :=
  padded 2 t.hour ++ ':' :: padded 2 t.minute ++ ':' :: padded 2 (t.second + t.nano / 1000000000) ++
    fractionText (t.nano % 1000000000)

def momentText (d : Date) (t : Time) : List Char :=
  d.text ++ 'T' :: t.text

-- A distance from universal time in seconds, rounded to minutes: `+hh:mm` east of it, `-hh:mm` west.
def offsetText (seconds : Int) : List Char :=
  let minutes := (seconds.natAbs + 30) / 60
  (if seconds < 0 then '-' else '+') :: padded 2 (minutes / 60) ++ ':' :: padded 2 (minutes % 60)

end Calendar

namespace Value

open Calendar

def ofDate (d : Date) : Value :=
  .string (String.ofList d.text)

def ofTime (t : Time) : Value :=
  .string (String.ofList t.text)

def ofMoment (d : Date) (t : Time) : Value :=
  .string (String.ofList (momentText d t))

def ofZonedMoment (d : Date) (t : Time) (offset : Int) : Value :=
  .string (String.ofList (momentText d t ++ offsetText offset))

end Value

end SqlFilter
