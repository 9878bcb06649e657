/-!
Binary floating point as whole numbers: a finite number is `m * 2 ^ q`. `parts` takes a `Float` apart,
`Format.nearest` finds the number of a format that lies nearest to a quotient of naturals, ties going to
the even neighbour.
-/

set_option autoImplicit false

namespace SqlFilter.Decimal

-- A binary format: how many bits a number has, and the exponents of its last bit.
structure Format where
  precision : Nat
  least : Int
  greatest : Int

def Format.binary64 : Format :=
  ⟨53, -1074, 971⟩

def Format.binary32 : Format :=
  ⟨24, -149, 104⟩

inductive Parts
  | finite (negative : Bool) (m : Nat) (q : Int)
  | infinite (negative : Bool)
  | nan

def parts (x : Float) : Parts :=
  let bits : Nat := x.toBits.toNat
  let negative := decide (Nat.pow 2 63 ≤ bits)
  let exponent : Nat := bits / Nat.pow 2 52 % Nat.pow 2 11
  let low : Nat := bits % Nat.pow 2 52
  if exponent = 2047 then if low = 0 then .infinite negative else .nan
  else if exponent = 0 then .finite negative low (-1074)
  else .finite negative (Nat.pow 2 52 + low) ((exponent : Int) - 1075)

def ofParts (negative : Bool) (m : Nat) (q : Int) : Float :=
  let sign := if negative then Nat.pow 2 63 else 0
  let magnitude := if m < Nat.pow 2 52 then m else (q + 1075).toNat * Nat.pow 2 52 + (m - Nat.pow 2 52)
  Float.ofBits (UInt64.ofNat (sign + magnitude))

def infinity (negative : Bool) : Float :=
  Float.ofBits (if negative then 0xFFF0000000000000 else 0x7FF0000000000000)

def nan : Float :=
  Float.ofBits 0x7FF8000000000000

def roundHalfEven (num den : Nat) : Nat :=
  let floor := num / den
  let twice := 2 * (num % den)
  if twice < den then floor
  else if den < twice then floor + 1
  else if floor % 2 = 0 then floor
  else floor + 1

def shifted (num den : Nat) (q : Int) : Nat × Nat :=
  (num * Nat.pow 2 (-q).toNat, den * Nat.pow 2 q.toNat)

namespace Format

-- The exponent that leaves `num / den` with exactly the bits of the format before the point, or the least one.
def exponentFor (format : Format) (num den : Nat) : Int :=
  let guess : Int := (num.log2 : Int) - den.log2 - format.precision
  let (a, b) := shifted num den guess
  max format.least (if b * Nat.pow 2 format.precision ≤ a then guess + 1 else guess)

-- The number `m * 2 ^ q` of the format nearest to `num / den`; none when that is too large for it.
def nearest? (format : Format) (num den : Nat) : Option (Nat × Int) :=
  if num = 0 then some (0, format.least)
  else
    let q := format.exponentFor num den
    let (a, b) := shifted num den q
    let m := roundHalfEven a b
    let (m, q) := if m = Nat.pow 2 format.precision then (Nat.pow 2 (format.precision - 1), q + 1) else (m, q)
    if format.greatest < q then none else some (m, q)

def nearest (format : Format) (negative : Bool) (num den : Nat) : Float :=
  match format.nearest? num den with
  | none => infinity negative
  | some (0, _) => ofParts negative 0 (-1074)
  | some (m, q) =>
      -- a number of a narrower format is a double: its last bit moves to where a double keeps it
      let up := min (52 - m.log2) (q + 1074).toNat
      ofParts negative (m * Nat.pow 2 up) (q - up)

end Format

end SqlFilter.Decimal
