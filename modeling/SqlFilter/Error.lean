import SqlFilter.Json.Basic
import SqlFilter.Operator

/-!
What can go wrong with a filter, and what is said about it.
-/

set_option autoImplicit false

namespace SqlFilter

inductive FilterError
  | invalidShape (field : String) (op : Operator) (expected : String)
  | invalidOption (reason : String)
  | json (cause : Json.ReadError)
  | config (reason : String)
  | io (reason : String)
deriving DecidableEq

namespace FilterError

def message : FilterError → String
  | .invalidShape field op expected => "Invalid value for '" ++ field ++ " " ++ op.sql ++ "': expected " ++ expected
  | .invalidOption reason => "Invalid option: " ++ reason
  | .json cause => "JSON error: " ++ cause.message
  | .config reason => "Configuration error: " ++ reason
  | .io reason => "IO error: " ++ reason

def unknownOperator (spelling : String) : FilterError :=
  .invalidOption ("unknown operator '" ++ spelling ++ "'")

def unknownLogic (spelling : String) : FilterError :=
  .invalidOption ("unknown logic '" ++ spelling ++ "'")

def zeroStart : String :=
  "parameter_start_index must be at least 1"

end FilterError

end SqlFilter
