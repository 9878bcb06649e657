import SqlFilter.Decimal.Layout
import SqlFilter.Decimal.Numeral
import SqlFilter.Json.Basic

/-!
Numbers of JSON. `scanNumeral` takes the longest numeral off a text, `Number.ofNumeral` gives its value and
`Number.write` its text.

The value of a numeral with a point or an exponent is not always the nearest double: the digits are gathered into a
whole number of 64 bits as long as they fit, that number is made a double, and the double is multiplied or divided by
a power of ten. Each step rounds on its own.
-/

set_option autoImplicit false

namespace SqlFilter

open Decimal (Numeral)

namespace Json

def missingDigit : List Char → ReadError
  | [] => .truncated
  | _ => .malformed

def scanDigits (cs : List Char) : Except ReadError (List Char × List Char) :=
  match cs.takeWhile Char.isDigit with
  | [] => .error (missingDigit cs)
  | digit :: digits => .ok (digit :: digits, cs.dropWhile Char.isDigit)

def scanWhole (cs : List Char) : Except ReadError (List Char × List Char) :=
  match scanDigits cs with
  | .ok ('0' :: _ :: _, _) => .error .malformed
  | other => other

def scanFraction : List Char → Except ReadError (Option (List Char) × List Char)
  | '.' :: rest => (scanDigits rest).map fun (digits, rest) => (some digits, rest)
  | rest => .ok (none, rest)

def scanExponent : List Char → Except ReadError (Option Int × List Char)
  | c :: rest =>
      if c = 'e' || c = 'E' then
        (scanDigits (Decimal.splitSign rest).2).map fun (digits, after) =>
          let n : Nat := Nat.ofDigitChars 10 digits 0
          (some (if (Decimal.splitSign rest).1 then -n else n), after)
      else .ok (none, c :: rest)
  | [] => .ok (none, [])

def scanUnsigned (negative : Bool) (cs : List Char) : Except ReadError (Numeral × List Char) :=
  match scanWhole cs with
  | .error e => .error e
  | .ok (whole, cs) =>
      match scanFraction cs with
      | .error e => .error e
      | .ok (fraction, cs) =>
          match scanExponent cs with
          | .error e => .error e
          | .ok (exponent, cs) => .ok (⟨negative, whole, fraction, exponent⟩, cs)

def scanNumeral (cs : List Char) : Except ReadError (Numeral × List Char) :=
  match cs with
  | '-' :: rest => scanUnsigned true rest
  | cs => scanUnsigned false cs

theorem scan_digits_shorter {cs digits rest : List Char} (scanned : scanDigits cs = .ok (digits, rest)) :
    rest.length < cs.length := by
  unfold scanDigits at scanned
  split at scanned
  · cases scanned
  · rename_i taken
    simp only [Except.ok.injEq, Prod.mk.injEq] at scanned
    have whole := congrArg List.length (List.takeWhile_append_dropWhile (p := Char.isDigit) (l := cs))
    simp only [taken, List.length_append, List.length_cons] at whole
    rw [← scanned.2]
    omega

theorem scan_whole_shorter {cs digits rest : List Char} (scanned : scanWhole cs = .ok (digits, rest)) :
    rest.length < cs.length := by
  unfold scanWhole at scanned
  split at scanned
  · cases scanned
  · exact scan_digits_shorter scanned

theorem scan_fraction_shorter {cs rest : List Char} {digits : Option (List Char)}
    (scanned : scanFraction cs = .ok (digits, rest)) : rest.length ≤ cs.length := by
  unfold scanFraction at scanned
  split at scanned
  · rename_i after
    cases found : scanDigits after with
    | error e => simp [found, Except.map] at scanned
    | ok pair =>
        have shorter := @scan_digits_shorter _ pair.1 pair.2 found
        simp only [found, Except.map, Except.ok.injEq, Prod.mk.injEq] at scanned
        rw [← scanned.2]
        simp only [List.length_cons]
        omega
  · simp only [Except.ok.injEq, Prod.mk.injEq] at scanned
    exact Nat.le_of_eq (congrArg List.length scanned.2.symm)

theorem split_sign_shorter (cs : List Char) : (Decimal.splitSign cs).2.length ≤ cs.length := by
  unfold Decimal.splitSign
  split <;> simp

theorem scan_exponent_shorter {cs rest : List Char} {power : Option Int}
    (scanned : scanExponent cs = .ok (power, rest)) : rest.length ≤ cs.length := by
  unfold scanExponent at scanned
  split at scanned
  · rename_i c after
    split at scanned
    · have signShorter := split_sign_shorter after
      cases found : scanDigits (Decimal.splitSign after).2 with
      | error e => simp [found, Except.map] at scanned
      | ok pair =>
          have shorter := @scan_digits_shorter _ pair.1 pair.2 found
          simp only [found, Except.map, Except.ok.injEq, Prod.mk.injEq] at scanned
          rw [← scanned.2]
          simp only [List.length_cons]
          omega
    · simp only [Except.ok.injEq, Prod.mk.injEq] at scanned
      exact Nat.le_of_eq (congrArg List.length scanned.2.symm)
  · simp only [Except.ok.injEq, Prod.mk.injEq] at scanned
    simp [← scanned.2]

theorem scan_unsigned_shorter {negative : Bool} {cs rest : List Char} {numeral : Numeral}
    (scanned : scanUnsigned negative cs = .ok (numeral, rest)) : rest.length < cs.length := by
  unfold scanUnsigned at scanned
  split at scanned
  · cases scanned
  · rename_i whole
    split at scanned
    · cases scanned
    · rename_i fraction
      split at scanned
      · cases scanned
      · rename_i exponent
        have wholeShorter := scan_whole_shorter whole
        have fractionShorter := scan_fraction_shorter fraction
        have exponentShorter := scan_exponent_shorter exponent
        simp only [Except.ok.injEq, Prod.mk.injEq] at scanned
        rw [← scanned.2]
        omega

theorem scan_numeral_shorter {cs rest : List Char} {numeral : Numeral}
    (scanned : scanNumeral cs = .ok (numeral, rest)) : rest.length < cs.length := by
  unfold scanNumeral at scanned
  split at scanned
  · have shorter := scan_unsigned_shorter scanned
    simp only [List.length_cons]
    omega
  · exact scan_unsigned_shorter scanned

end Json

namespace Number

def gatherLimit : Nat :=
  18446744073709551615

-- Digits appended to a whole number as long as it stays within the limit, and the digits from there on.
def gather (n : Nat) : List Char → Nat × List Char
  | [] => (n, [])
  | digit :: rest =>
      let next := n * 10 + (digit.toNat - 48)
      if next ≤ gatherLimit then gather next rest else (n, digit :: rest)

def divideByTens (x : Float) (power : Nat) : Float :=
  if power ≤ 308 then x / Float.ofScientific 1 false power
  else if x == 0 then x
  else divideByTens (x / Float.ofScientific 1 false 308) (power - 308)
termination_by power

def timesTens? (x : Float) (power : Nat) : Option Float :=
  if power ≤ 308 then
    let product := x * Float.ofScientific 1 false power
    if product.isInf then none else some product
  else if x == 0 then some x
  else none

def scale? (gathered : Nat) (power : Int) : Option Float :=
  let x := (UInt64.ofNat gathered).toFloat
  if 0 ≤ power then timesTens? x power.toNat else some (divideByTens x (-power).toNat)

-- The value of a numeral. Whole numerals within the limit are whole numbers, but for negative ones that are zero or
-- below the least of 64 bits; what is too large for a double has no value.
def ofNumeral? (numeral : Numeral) : Option Number :=
  let signed (x : Float) : Number := .float (if numeral.negative then -x else x)
  let (whole, dropped) := gather 0 numeral.whole
  match numeral.fraction, numeral.exponent, dropped with
  | none, none, [] =>
      if !numeral.negative then some (.int whole)
      else if whole = 0 || 9223372036854775808 < whole then some (signed (UInt64.ofNat whole).toFloat)
      else some (.int (-whole))
  | fraction, exponent, dropped =>
      let fraction := fraction.getD []
      let (gathered, unread) := gather whole fraction
      let power : Int := dropped.length - (fraction.length - unread.length : Nat) + exponent.getD 0
      (scale? gathered power).map signed

-- Doubles in JSON: without an exponent from a hundred-thousandth to sixteen digits before the point, always with a
-- point or an exponent; of two equally near decimals the even one; `null` for what is no finite number.
def layout : Decimal.Layout :=
  ⟨some (-5, 15), true, .even, "null", fun _ => "null"⟩

def write : Number → String
  | .int n => n.repr
  | .float x => layout.write x

end Number

end SqlFilter
