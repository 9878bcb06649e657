import SqlFilter.Json.Number
import SqlFilter.Text.Quoted

/-!
What is said about data of the wrong kind: what was found, and what was asked for.
-/

set_option autoImplicit false

namespace SqlFilter

inductive Found
  | null
  | bool (b : Bool)
  | int (n : Int)
  | float (text : String)
  | string (s : String)
  | sequence
  | map

namespace Found

def describe : Found → String
  | .null => "null"
  | .bool b => "boolean `" ++ (if b then "true" else "false") ++ "`"
  | .int n => "integer `" ++ n.repr ++ "`"
  | .float text => "floating point `" ++ text ++ "`"
  | .string s => "string " ++ Text.quoted s
  | .sequence => "sequence"
  | .map => "map"

end Found

def Number.found : Number → Found
  | .int n => .int n
  | .float x => .float (layout.write x)

def Json.found : Json → Found
  | .null => .null
  | .bool b => .bool b
  | .number n => n.found
  | .string s => .string s
  | .array _ => .sequence
  | .object _ => .map

namespace Mismatch

def invalidType (found : Found) (expected : String) : String :=
  "invalid type: " ++ found.describe ++ ", expected " ++ expected

def invalidValue (found : Found) (expected : String) : String :=
  "invalid value: " ++ found.describe ++ ", expected " ++ expected

def oneOf : List String → String
  | [] => ""
  | [name] => "`" ++ name ++ "`"
  | [first, second] => "`" ++ first ++ "` or `" ++ second ++ "`"
  | names => "one of " ++ ", ".intercalate (names.map fun name => "`" ++ name ++ "`")

def unknown (kind name : String) (names : List String) : String :=
  "unknown " ++ kind ++ " `" ++ name ++ "`, expected " ++ oneOf names

end Mismatch

end SqlFilter
