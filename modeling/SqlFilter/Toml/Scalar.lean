import SqlFilter.Decimal.Numeral
import SqlFilter.Text.Hex
import SqlFilter.Toml.Basic
import SqlFilter.Value.Calendar

/-!
Values of TOML that are written without quotes or brackets: truth values, numbers, days and times of day.
-/

set_option autoImplicit false

namespace SqlFilter.Toml

open Decimal (Numeral)

def ungroup (isDigit : Char → Bool) : List Char → Option (List Char)
  | [] => none
  | [c] => if isDigit c then some [c] else none
  | c :: '_' :: rest => if isDigit c then (ungroup isDigit rest).map (c :: ·) else none
  | c :: d :: rest => if isDigit c then (ungroup isDigit (d :: rest)).map (c :: ·) else none

def wholeDigits? (cs : List Char) : Option (List Char) :=
  match ungroup Char.isDigit cs with
  | some ('0' :: _ :: _) => none
  | digits => digits

def bounded? (n : Int) : Option Toml :=
  if -9223372036854775808 ≤ n && n < 9223372036854775808 then some (.integer n) else none

def radix? (base : Nat) (cs : List Char) : Option Toml :=
  match ungroup (fun c => (Text.hexDigit? c).any (· < base)) cs with
  | none => none
  | some digits => bounded? (digits.foldl (fun n c => base * n + (Text.hexDigit? c).getD 0) 0 : Nat)

def exponent? (cs : List Char) : Option Int :=
  match ungroup Char.isDigit (Decimal.splitSign cs).2 with
  | none => none
  | some digits =>
      let n := Nat.ofDigitChars 10 digits 0
      some (if (Decimal.splitSign cs).1 then -n else n)

def bigFloat? (x : Float) : Option Toml :=
  match Decimal.parts x with
  | .infinite false => none
  | _ => some (.float x)

def decimal? (negative : Bool) (mantissa : List Char) (exponent : Option Int) : Option Toml :=
  match mantissa.dropWhile (· != '.') with
  | '.' :: fraction => do
      let whole ← wholeDigits? (mantissa.takeWhile (· != '.'))
      let fraction ← ungroup Char.isDigit fraction
      bigFloat? (Numeral.nearest ⟨negative, whole, some fraction, exponent⟩ .binary64)
  | _ => do
      let whole ← wholeDigits? mantissa
      match exponent with
      | none =>
          let n := Nat.ofDigitChars 10 whole 0
          bounded? (if negative then -n else n)
      | some _ => bigFloat? (Numeral.nearest ⟨negative, whole, none, exponent⟩ .binary64)

def unsigned? (negative : Bool) (cs : List Char) : Option Toml :=
  let isExponent (c : Char) : Bool := c == 'e' || c == 'E'
  match cs.dropWhile fun c => !isExponent c with
  | [] => decimal? negative cs none
  | _ :: power => (exponent? power).bind fun e => decimal? negative (cs.takeWhile fun c => !isExponent c) (some e)

def number? (cs : List Char) : Option Toml :=
  match cs with
  | '0' :: 'x' :: digits => radix? 16 digits
  | '0' :: 'o' :: digits => radix? 8 digits
  | '0' :: 'b' :: digits => radix? 2 digits
  | cs =>
      match Decimal.splitSign cs with
      | (negative, ['i', 'n', 'f']) => some (.float (Decimal.infinity negative))
      | (_, ['n', 'a', 'n']) => some (.float Decimal.nan)
      | (negative, digits) => unsigned? negative digits

def twoDigits? (tens ones : Char) : Option Nat :=
  if tens.isDigit && ones.isDigit then some (Nat.ofDigitChars 10 [tens, ones] 0) else none

def upTo (most : Nat) (tens ones : Char) : Bool :=
  (twoDigits? tens ones).any (· ≤ most)

def isDate : List Char → Bool
  | [a, b, c, d, '-', m, n, '-', x, y] =>
      match twoDigits? a b, twoDigits? c d, twoDigits? m n, twoDigits? x y with
      | some century, some year, some month, some day =>
          (Calendar.Date.of? (100 * century + year : Nat) month day).isSome
      | _, _, _, _ => false
  | _ => false

def isFraction : List Char → Bool
  | [] => true
  | '.' :: d :: digits => (d :: digits).all Char.isDigit
  | _ => false

-- A time of day as `hh:mm:ss` with an optional fraction; second 60 is allowed in every minute.
def isTime : List Char → Bool
  | h :: i :: ':' :: m :: n :: ':' :: s :: t :: fraction =>
      upTo 23 h i && upTo 59 m n && upTo 60 s t && isFraction fraction
  | _ => false

def isOffset : List Char → Bool
  | [] | ['Z'] | ['z'] => true
  | [sign, h, i, ':', m, n] => (sign == '+' || sign == '-') && upTo 23 h i && upTo 59 m n
  | _ => false

def isTimeChar (c : Char) : Bool :=
  c.isDigit || c == ':' || c == '.'

def isMoment (cs : List Char) : Bool :=
  isTime cs || isDate cs ||
    match cs.drop 10 with
    | c :: rest =>
        isDate (cs.take 10) && (c == 'T' || c == 't' || c == ' ') && isTime (rest.takeWhile isTimeChar) &&
          isOffset (rest.dropWhile isTimeChar)
    | [] => false

def scalar? (word : List Char) : Option Toml :=
  if word = ['t', 'r', 'u', 'e'] then some (.boolean true)
  else if word = ['f', 'a', 'l', 's', 'e'] then some (.boolean false)
  else if isMoment word then some (.moment (String.ofList word))
  else number? word

def isWordChar (c : Char) : Bool :=
  c.isAlphanum || c == '+' || c == '-' || c == '_' || c == '.' || c == ':'

-- The value without quotes or brackets at the front of a text. A blank may stand between a day and a time of day.
def scanScalar (cs : List Char) : Option (Toml × List Char) :=
  let word := cs.takeWhile isWordChar
  match isDate word, cs.dropWhile isWordChar with
  | true, ' ' :: c :: rest =>
      if c.isDigit then
        (scalar? (word ++ ' ' :: c :: rest.takeWhile isWordChar)).map fun value => (value, rest.dropWhile isWordChar)
      else (scalar? word).map fun value => (value, ' ' :: c :: rest)
  | _, rest => (scalar? word).map fun value => (value, rest)

end SqlFilter.Toml
