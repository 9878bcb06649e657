import SqlFilter.Json.Literal
import SqlFilter.Json.Number

/-!
Writing JSON documents: `compact` on one line without white space, `pretty` with a line for each item and member.
-/

set_option autoImplicit false

namespace SqlFilter.Json

structure Style where
  -- What stands before an item or a closing bracket inside so many open brackets.
  lineBreak : Nat → String
  -- What stands between a key and its value.
  colon : String

def Style.compact : Style :=
  ⟨fun _ => "", ":"⟩

def Style.pretty : Style :=
  ⟨fun depth => String.ofList ('\n' :: List.replicate (2 * depth) ' '), ": "⟩

mutual
def write (style : Style) (depth : Nat) : Json → String
  | .null => "null"
  | .bool b => if b then "true" else "false"
  | .number n => n.write
  | .string s => quote s
  | .array [] => "[]"
  | .array (item :: items) =>
      "[" ++ style.lineBreak (depth + 1) ++ write style (depth + 1) item ++ writeItems style (depth + 1) items ++
        style.lineBreak depth ++ "]"
  | .object [] => "\x7b\x7d"
  | .object ((key, value) :: members) =>
      "\x7b" ++ style.lineBreak (depth + 1) ++ quote key ++ style.colon ++ write style (depth + 1) value ++
        writeMembers style (depth + 1) members ++ style.lineBreak depth ++ "\x7d"

def writeItems (style : Style) (depth : Nat) : List Json → String
  | [] => ""
  | item :: items => "," ++ style.lineBreak depth ++ write style depth item ++ writeItems style depth items

def writeMembers (style : Style) (depth : Nat) : List (String × Json) → String
  | [] => ""
  | (key, value) :: members =>
      "," ++ style.lineBreak depth ++ quote key ++ style.colon ++ write style depth value ++
        writeMembers style depth members
end

def compact (document : Json) : String :=
  document.write .compact 0

def pretty (document : Json) : String :=
  document.write .pretty 0

end SqlFilter.Json
