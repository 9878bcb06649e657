import SqlFilter.Logic

/-!
White space between the children of a group. Width zero keeps a group on one line; with any other width each child and
each closing parenthesis has a line of its own, `depth * width` blanks deep.
-/

set_option autoImplicit false

namespace SqlFilter.Sql

-- What stands after `(` and before each child of a group at this depth.
def indent (depth width : Nat) : String :=
  if width = 0 then "" else String.ofList ('\n' :: List.replicate (depth * width) ' ')

def separator (logic : Logic) (depth width : Nat) : String :=
  if width = 0 then " " ++ logic.sql ++ " " else indent depth width ++ logic.sql ++ " "

def closing (depth width : Nat) : String :=
  indent (depth - 1) width

end SqlFilter.Sql
