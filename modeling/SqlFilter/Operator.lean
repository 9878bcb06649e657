import SqlFilter.Text.Blank

/-!
The comparison operators of a condition, with the SQL word that each is written as.
-/

set_option autoImplicit false

namespace SqlFilter

inductive Operator
  | eq
  | ne
  | gt
  | gte
  | lt
  | lte
  | like
  | between
  | isIn
deriving DecidableEq

namespace Operator

def all : List Operator :=
  [.eq, .ne, .gt, .gte, .lt, .lte, .like, .between, .isIn]

def sql : Operator → String
  | .eq => "="
  | .ne => "!="
  | .gt => ">"
  | .gte => ">="
  | .lt => "<"
  | .lte => "<="
  | .like => "like"
  | .between => "between"
  | .isIn => "in"

def ofSql? (token : String) : Option Operator :=
  all.find? fun op => op.sql == token

def ofWord? (spelling : String) : Option Operator :=
  ofSql? (Text.word spelling)

theorem of_sql_sql (op : Operator) : ofSql? op.sql = some op := by
  cases op <;> decide

theorem mem_all (op : Operator) : op ∈ all := by
  cases op <;> decide

end Operator

end SqlFilter
