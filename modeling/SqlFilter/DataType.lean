import SqlFilter.Text.Blank

/-!
The type that a condition may declare for its operand. It decides whether a literal is quoted.
-/

set_option autoImplicit false

namespace SqlFilter

inductive DataType
  | numeric
  | epoch
  | string
  | boolean
  | other
deriving DecidableEq

namespace DataType

def all : List DataType :=
  [.numeric, .epoch, .string, .boolean, .other]

-- The number that stands for a type in JSON: its place in `all`.
def code : DataType → Nat
  | .numeric => 0
  | .epoch => 1
  | .string => 2
  | .boolean => 3
  | .other => 4

def ofCode? (code : Nat) : Option DataType :=
  all[code]?

def name : DataType → String
  | .numeric => "NUMERIC"
  | .epoch => "EPOCH"
  | .string => "STRING"
  | .boolean => "BOOLEAN"
  | .other => "OTHER"

def ofName? (name : String) : Option DataType :=
  all.find? fun type => Text.fold type.name == Text.fold name

def isQuoted : DataType → Bool
  | .string | .epoch => true
  | .numeric | .boolean | .other => false

theorem of_code_code (type : DataType) : ofCode? type.code = some type := by
  cases type <;> rfl

theorem code_of_of_code {code : Nat} {type : DataType} (found : ofCode? code = some type) : type.code = code := by
  match code with
  | 0 | 1 | 2 | 3 | 4 => cases type <;> simp_all [ofCode?, all, DataType.code]
  | n + 5 => simp [ofCode?, all] at found

end DataType

end SqlFilter
