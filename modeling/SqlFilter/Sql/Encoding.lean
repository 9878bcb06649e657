import SqlFilter.Error
import SqlFilter.Sql.Bindings
import SqlFilter.Value.Json

/-!
How the operands of a filter become text while its SQL is written: each as a literal, or each bound to the next
placeholder.
-/

set_option autoImplicit false

namespace SqlFilter.Sql

-- The literal of an operand. Its text is not escaped.
def literal (value : Value) (quoted : Bool) : String :=
  if quoted then "'" ++ value.display ++ "'" else value.display

inductive Encoding
  | literal
  | bound (store : Bindings)

def Encoding.values : Encoding → List Value
  | .literal => []
  | .bound store => store.values.toList

-- Writing SQL. What was bound before a failure stays bound.
abbrev Writer :=
  EStateM FilterError Encoding

def encode (quoted : Bool) (value : Value) : Writer String := do
  match ← get with
  | .literal => return Sql.literal value quoted
  | .bound store =>
      let (placeholder, store) := store.bind value
      set (Encoding.bound store)
      return placeholder

end SqlFilter.Sql
