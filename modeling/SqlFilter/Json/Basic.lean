/-!
JSON documents as trees. Members of an object are kept in the order of the text, doubled keys included.
-/

set_option autoImplicit false

namespace SqlFilter

-- A number of a JSON document: whole within 64 bits, or binary floating point.
inductive Number
  | int (n : Int)
  | float (x : Float)
deriving DecidableEq

inductive Json
  | null
  | bool (b : Bool)
  | number (n : Number)
  | string (s : String)
  | array (items : List Json)
  | object (members : List (String × Json))

def Number.equal : Number → Number → Bool
  | .int m, .int n => m == n
  | .float x, .float y => x == y
  | _, _ => false

namespace Json

mutual
def equal : Json → Json → Bool
  | .null, .null => true
  | .bool a, .bool b => a == b
  | .number m, .number n => m.equal n
  | .string s, .string t => s == t
  | .array xs, .array ys => equalItems xs ys
  | .object xs, .object ys => equalMembers xs ys
  | _, _ => false

def equalItems : List Json → List Json → Bool
  | [], [] => true
  | x :: xs, y :: ys => equal x y && equalItems xs ys
  | _, _ => false

def equalMembers : List (String × Json) → List (String × Json) → Bool
  | [], [] => true
  | (k, x) :: xs, (l, y) :: ys => k == l && equal x y && equalMembers xs ys
  | _, _ => false
end

-- Documents that are one and the same, where `equal` asks whether their numbers are of one value. No instance for lists
-- can be used on the way, as it would have to be there for documents already.
mutual
def decideSame : (a b : Json) → Decidable (a = b)
  | .null, b =>
      match b with
      | .null => isTrue rfl
      | .bool _ | .number _ | .string _ | .array _ | .object _ => isFalse nofun
  | .bool x, b =>
      match b with
      | .bool y => decidable_of_iff (x = y) (by simp)
      | .null | .number _ | .string _ | .array _ | .object _ => isFalse nofun
  | .number m, b =>
      match b with
      | .number n => decidable_of_iff (m = n) (by simp)
      | .null | .bool _ | .string _ | .array _ | .object _ => isFalse nofun
  | .string s, b =>
      match b with
      | .string t => decidable_of_iff (s = t) (by simp)
      | .null | .bool _ | .number _ | .array _ | .object _ => isFalse nofun
  | .array xs, b =>
      match b with
      | .array ys =>
          have := decideSameItems xs ys
          decidable_of_iff (xs = ys) (by simp)
      | .null | .bool _ | .number _ | .string _ | .object _ => isFalse nofun
  | .object xs, b =>
      match b with
      | .object ys =>
          have := decideSameMembers xs ys
          decidable_of_iff (xs = ys) (by simp)
      | .null | .bool _ | .number _ | .string _ | .array _ => isFalse nofun

def decideSameItems : (xs ys : List Json) → Decidable (xs = ys)
  | [], [] => isTrue rfl
  | [], _ :: _ | _ :: _, [] => isFalse nofun
  | x :: xs, y :: ys =>
      have := decideSame x y
      have := decideSameItems xs ys
      decidable_of_iff (x = y ∧ xs = ys) (by simp)

def decideSameMembers : (xs ys : List (String × Json)) → Decidable (xs = ys)
  | [], [] => isTrue rfl
  | [], _ :: _ | _ :: _, [] => isFalse nofun
  | (k, x) :: xs, (l, y) :: ys =>
      have := decideSame x y
      have := decideSameMembers xs ys
      decidable_of_iff ((k = l ∧ x = y) ∧ xs = ys) (by simp)
end

instance : DecidableEq Json :=
  decideSame

inductive ReadError
  -- The text is not JSON, or nests too deeply, or holds a number that is too large.
  | malformed
  -- The text ends before its value does.
  | truncated
  -- The text is JSON of another shape than the one asked for.
  | mismatch (reason : String)
deriving DecidableEq

def ReadError.message : ReadError → String
  | .malformed => "malformed JSON"
  | .truncated => "unexpected end of JSON"
  | .mismatch reason => reason

-- The value of the one member with this key: none inside when there is no such member, none at all when it is
-- doubled.
def member? (key : String) (members : List (String × Json)) : Option (Option Json) :=
  match members.filter (·.1 == key) with
  | [] => some none
  | [(_, value)] => some (some value)
  | _ => none

def caseName? : Json → Option String
  | .string name => some name
  | .object [(name, .null)] => some name
  | _ => none

end Json

end SqlFilter
