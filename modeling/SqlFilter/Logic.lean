import SqlFilter.Text.Blank

/-!
The two ways of combining conditions.
-/

set_option autoImplicit false

namespace SqlFilter

inductive Logic
  | and
  | or
deriving DecidableEq

namespace Logic

def all : List Logic :=
  [.and, .or]

def sql : Logic → String
  | .and => "and"
  | .or => "or"

def ofSql? (token : String) : Option Logic :=
  all.find? fun logic => logic.sql == token

def ofWord? (spelling : String) : Option Logic :=
  ofSql? (Text.word spelling)

theorem of_sql_sql (logic : Logic) : ofSql? logic.sql = some logic := by
  cases logic <;> decide

end Logic

end SqlFilter
