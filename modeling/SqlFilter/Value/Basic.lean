import SqlFilter.DataType
import SqlFilter.Json.Canonical

/-!
Operands of conditions, and the conversions from native values.
-/

set_option autoImplicit false

namespace SqlFilter

inductive Value
  | null
  | bool (b : Bool)
  | int (n : Int64)
  -- A whole number that need not fit a signed word.
  | uint (n : UInt64)
  | float (x : Float)
  | string (s : String)
  | array (items : List Value)
  | object (o : JsonObject)

namespace Value

def isNull : Value → Bool
  | .null => true
  | _ => false

def items? : Value → Option (List Value)
  | .array items => some items
  | _ => none

mutual
-- Equality of values. Whole numbers of the two kinds and floating numbers are never equal to each other.
def equal : Value → Value → Bool
  | .null, .null => true
  | .bool a, .bool b => a == b
  | .int m, .int n => m == n
  | .uint m, .uint n => m == n
  | .float x, .float y => x == y
  | .string s, .string t => s == t
  | .array xs, .array ys => equalItems xs ys
  | .object o, .object p => Json.equalMembers o.members p.members
  | _, _ => false

def equalItems : List Value → List Value → Bool
  | [], [] => true
  | x :: xs, y :: ys => equal x y && equalItems xs ys
  | _, _ => false
end

instance : BEq Value :=
  ⟨equal⟩

instance : Inhabited Value :=
  ⟨.null⟩

-- The type of a value that declares none. A list has the type of its first item, unless that is null.
def dataType : Value → DataType
  | .int _ | .uint _ | .float _ => .numeric
  | .string _ => .string
  | .bool _ => .boolean
  | .array (.null :: _) => .other
  | .array (first :: _) => dataType first
  | .array [] | .null | .object _ => .other

def ofInt (n : Int) : Value :=
  if n < 9223372036854775808 then .int (Int64.ofInt n) else .uint (UInt64.ofNat n.toNat)

def ofInt32 (n : Int32) : Value :=
  .int n.toInt64

def ofInt64 (n : Int64) : Value :=
  .int n

def ofUInt32 (n : UInt32) : Value :=
  .int (Int64.ofNat n.toNat)

def ofUInt64 (n : UInt64) : Value :=
  if n.toNat < 9223372036854775808 then .int (Int64.ofNat n.toNat) else .uint n

def ofOption {α : Type} (convert : α → Value) : Option α → Value
  | none => .null
  | some a => convert a

def ofList {α : Type} (convert : α → Value) (items : List α) : Value :=
  .array (items.map convert)

def ofPair (low high : Value) : Value :=
  .array [low, high]

end Value

end SqlFilter
