import SqlFilter.Decimal.Binary

/-!
The shortest decimal of a double: of the decimals that read back as the double those with the fewest
digits, and of these the one nearest to it.
-/

set_option autoImplicit false

namespace SqlFilter.Decimal

inductive Tie
  | up
  | even
deriving DecidableEq

structure Scaled where
  digits : Nat
  exponent : Int

-- The double `m * 2 ^ q` and the two ends of what rounds to it, over one denominator.
structure Interval where
  low : Nat
  value : Nat
  high : Nat
  den : Nat
  closed : Bool

-- What rounds to `m * 2 ^ q`: half a step down and up, a quarter down where the steps below are half as wide.
def Interval.around (m : Nat) (q : Int) : Interval :=
  let below := if m = Nat.pow 2 52 && (-1074 : Int) < q then 1 else 2
  let up := Nat.pow 2 (q - 2).toNat
  ⟨(4 * m - below) * up, 4 * m * up, (4 * m + 2) * up, Nat.pow 2 (2 - q).toNat, m % 2 = 0⟩

namespace Interval

-- A decimal `digits * 10 ^ exponent` and the interval over one denominator: the decimal, and the factor for the ends.
def against (i : Interval) (d : Scaled) : Nat × Nat :=
  (d.digits * Nat.pow 10 d.exponent.toNat * i.den, Nat.pow 10 (-d.exponent).toNat)

def holds (i : Interval) (d : Scaled) : Bool :=
  let (point, factor) := i.against d
  if i.closed then i.low * factor ≤ point && point ≤ i.high * factor
  else i.low * factor < point && point < i.high * factor

def magnitude (i : Interval) : Int :=
  if i.den ≤ i.value then (Nat.toDigits 10 (i.value / i.den)).length - 1
  else -(Nat.toDigits 10 ((i.den - 1) / i.value)).length

def below (i : Interval) (exponent : Int) : Scaled :=
  ⟨i.value * Nat.pow 10 (-exponent).toNat / (i.den * Nat.pow 10 exponent.toNat), exponent⟩

def onGrid (i : Interval) (tie : Tie) (exponent : Int) : Option Scaled :=
  let lower := i.below exponent
  let upper : Scaled := { lower with digits := lower.digits + 1 }
  match i.holds lower, i.holds upper with
  | false, false => none
  | true, false => some lower
  | false, true => some upper
  | true, true =>
      let (down, factor) := i.against lower
      let (up, _) := i.against upper
      let twice := 2 * (i.value * factor)
      if twice < down + up then some lower
      else if down + up < twice then some upper
      else match tie with
        | .up => some upper
        | .even => some (if lower.digits % 2 = 0 then lower else upper)

end Interval

-- A decimal without the zeros at the end of its digits; `room` bounds how many there are.
def Scaled.strip : Nat → Scaled → Scaled
  | 0, d => d
  | room + 1, d => if d.digits % 10 = 0 then strip room ⟨d.digits / 10, d.exponent + 1⟩ else d

-- The shortest decimal of the double `m * 2 ^ q`, for `m` above zero. Seventeen digits always suffice.
def shortest (tie : Tie) (m : Nat) (q : Int) : Scaled :=
  let i := Interval.around m q
  let first := i.magnitude
  let found := (List.range 17).findSome? fun (n : Nat) => i.onGrid tie (first - n)
  (found.getD (i.below (first - 16))).strip 17

end SqlFilter.Decimal
