import SqlFilter.Decimal.Binary

/-!
Decimal numerals: their parts as they are spelled, the number of a binary format nearest to one, and the
spellings that are read as a floating-point number.
-/

set_option autoImplicit false

namespace SqlFilter.Decimal

structure Numeral where
  negative : Bool
  whole : List Char
  fraction : Option (List Char)
  exponent : Option Int

namespace Numeral

def digits (n : Numeral) : Nat :=
  Nat.ofDigitChars 10 (n.whole ++ n.fraction.getD []) 0

def power (n : Numeral) : Int :=
  n.exponent.getD 0 - (n.fraction.getD []).length

-- The number of the format nearest to a numeral. Beyond 400 powers of ten the number is too large for any format or
-- too small for any, so the powers themselves are not computed there.
def nearest (n : Numeral) (format : Format) : Float :=
  let digits := n.digits
  let magnitude : Int := n.power + (Nat.toDigits 10 digits).length
  if digits = 0 || magnitude < -400 then ofParts n.negative 0 (-1074)
  else if 400 < magnitude then infinity n.negative
  else format.nearest n.negative (digits * Nat.pow 10 n.power.toNat) (Nat.pow 10 (-n.power).toNat)

end Numeral

def splitSign : List Char → Bool × List Char
  | '-' :: rest => (true, rest)
  | '+' :: rest => (false, rest)
  | rest => (false, rest)

def integer? (cs : List Char) : Option Int :=
  let (negative, digits) := splitSign cs
  if digits.isEmpty || !digits.all Char.isDigit then none
  else
    let n := Nat.ofDigitChars 10 digits 0
    some (if negative then -n else n)

def exponentPart? : List Char → Option (Option Int)
  | [] => some none
  | e :: rest => if e = 'e' || e = 'E' then (integer? rest).map some else none

def numeral? (negative : Bool) (cs : List Char) : Option Numeral :=
  let whole := cs.takeWhile Char.isDigit
  match cs.dropWhile Char.isDigit with
  | '.' :: rest =>
      let fraction := rest.takeWhile Char.isDigit
      if whole.isEmpty && fraction.isEmpty then none
      else (exponentPart? (rest.dropWhile Char.isDigit)).map fun e => ⟨negative, whole, some fraction, e⟩
  | rest => if whole.isEmpty then none else (exponentPart? rest).map fun e => ⟨negative, whole, none, e⟩

def ofText? (format : Format) (text : String) : Option Float :=
  let (negative, cs) := splitSign text.toList
  match String.ofList (cs.map Char.toLower) with
  | "inf" | "infinity" => some (infinity negative)
  | "nan" => some nan
  | _ => (numeral? negative cs).map fun n => n.nearest format

end SqlFilter.Decimal
