import SqlFilter.Json.Printer
import SqlFilter.Json.Reader
import SqlFilter.Value.Basic

/-!
Values as JSON. `ofJson` reads a value off a document as it stands in a text; `ofDocument` converts a document that
is canonical already. `display` is the plain text of a value.
-/

set_option autoImplicit false

namespace SqlFilter

structure Document where
  json : Json
  canonical : json.IsCanonical

def Document.ofJson (json : Json) : Document :=
  ⟨json.canonical, Json.is_canonical_canonical json⟩

def Document.read (text : String) : Except Json.ReadError Document :=
  Json.readAs (.ok ∘ Document.ofJson) text

namespace Value

mutual
def toJson : Value → Json
  | .null => .null
  | .bool b => .bool b
  | .int n => .number (.int n.toInt)
  | .uint n => .number (.int n.toNat)
  | .float x => .number (.float x)
  | .string s => .string s
  | .array items => .array (toJsonItems items)
  | .object o => o.toJson

def toJsonItems : List Value → List Json
  | [] => []
  | item :: items => toJson item :: toJsonItems items
end

def ofNumber : Number → Value
  | .int n => ofInt n
  | .float x => .float x

mutual
def ofJson : Json → Value
  | .null => .null
  | .bool b => .bool b
  | .number n => ofNumber n
  | .string s => .string s
  | .array items => .array (ofJsonItems items)
  | .object members => .object (.ofMembers members)

def ofJsonItems : List Json → List Value
  | [] => []
  | item :: items => ofJson item :: ofJsonItems items
end

mutual
def ofCanonical : (json : Json) → json.IsCanonical → Value
  | .null, _ => .null
  | .bool b, _ => .bool b
  | .number n, _ => ofNumber n
  | .string s, _ => .string s
  | .array items, canonical => .array (ofCanonicalItems items canonical)
  | .object members, canonical => .object ⟨members, canonical⟩

def ofCanonicalItems : (items : List Json) → Json.AreCanonical items → List Value
  | [], _ => []
  | item :: items, canonical => ofCanonical item canonical.1 :: ofCanonicalItems items canonical.2
end

def ofDocument (document : Document) : Value :=
  ofCanonical document.json document.canonical

def read (text : String) : Except Json.ReadError Value :=
  Json.readAs (.ok ∘ ofJson) text

-- Doubles in plain text: never an exponent, a point only before digits; of two equally near decimals the greater.
def layout : Decimal.Layout :=
  ⟨none, false, .up, "NaN", fun negative => if negative then "-inf" else "inf"⟩

mutual
-- The plain text of a value. A list is its items with commas between them, an object its JSON text.
def display : Value → String
  | .null => "null"
  | .bool b => if b then "true" else "false"
  | .int n => n.toInt.repr
  | .uint n => n.toNat.repr
  | .float x => layout.write x
  | .string s => s
  | .array [] => ""
  | .array (item :: items) => display item ++ displayRest items
  | .object o => o.toJson.compact

def displayRest : List Value → String
  | [] => ""
  | item :: items => "," ++ display item ++ displayRest items
end

def toJsonText (value : Value) : String :=
  value.toJson.compact

end Value

end SqlFilter
