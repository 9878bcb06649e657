import SqlFilter.Decimal.Shortest

/-!
Writing a double. A `Layout` holds what a format decides for itself; `Layout.write` is the same for all.
-/

set_option autoImplicit false

namespace SqlFilter.Decimal

structure Layout where
  -- The powers of ten of the first digit that are written without an exponent; none for all of them.
  positional : Option (Int × Int)
  pointZero : Bool
  tie : Tie
  nan : String
  infinite : Bool → String

namespace Layout

def positionalText (pointZero : Bool) (digits : List Char) (first : Int) : List Char :=
  if first < 0 then
    '0' :: '.' :: List.replicate (-first - 1).toNat '0' ++ digits
  else
    let whole := first.toNat + 1
    if digits.length ≤ whole then
      digits ++ List.replicate (whole - digits.length) '0' ++ (if pointZero then ['.', '0'] else [])
    else digits.take whole ++ '.' :: digits.drop whole

def exponentText (digits : List Char) (first : Int) : List Char :=
  digits.take 1 ++ (if digits.length ≤ 1 then [] else '.' :: digits.drop 1) ++
    'e' :: (if first < 0 then '-' else '+') :: Nat.toDigits 10 first.natAbs

def unsigned (layout : Layout) (digits : List Char) (first : Int) : List Char :=
  match layout.positional with
  | none => positionalText layout.pointZero digits first
  | some (lowest, highest) =>
      if lowest ≤ first && first ≤ highest then positionalText layout.pointZero digits first
      else exponentText digits first

def write (layout : Layout) (x : Float) : String :=
  match parts x with
  | .nan => layout.nan
  | .infinite negative => layout.infinite negative
  | .finite negative m q =>
      let d : Scaled := if m = 0 then ⟨0, 0⟩ else shortest layout.tie m q
      let digits := Nat.toDigits 10 d.digits
      let body := layout.unsigned digits (d.exponent + digits.length - 1)
      String.ofList (if negative then '-' :: body else body)

end Layout

end SqlFilter.Decimal
