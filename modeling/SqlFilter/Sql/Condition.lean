import SqlFilter.Node.Basic
import SqlFilter.Sql.Encoding

/-!
The right-hand side of a condition: a null test, or an operator with its operands.
-/

set_option autoImplicit false

namespace SqlFilter.Sql

variable {F : Type}

-- Whether the literals of a condition are quoted: its declared type decides, or else the type of its value.
def isQuoted (leaf : Leaf F) : Bool :=
  (leaf.dataType.getD leaf.value.dataType).isQuoted

def invalidShape [FieldName F] (leaf : Leaf F) (expected : String) : FilterError :=
  .invalidShape (FieldName.sql leaf.field) leaf.op expected

-- The operator of a condition with its operands. A null value is tested for, whatever the declared type; `between`
-- takes a list of two, `in` a list of one or more, every other operator a value that is no list.
def condition [FieldName F] (leaf : Leaf F) : Writer String :=
  match leaf.op, leaf.value with
  | .eq, .null => return "is null"
  | _, .null => return "is not null"
  | .between, .array [low, high] => do
      let low ← encode (isQuoted leaf) low
      let high ← encode (isQuoted leaf) high
      return Operator.between.sql ++ " " ++ low ++ " and " ++ high
  | .between, _ => throw (invalidShape leaf "a 2-element array")
  | .isIn, .array (first :: others) => do
      let items ← (first :: others).mapM (encode (isQuoted leaf))
      return Operator.isIn.sql ++ " (" ++ ", ".intercalate items ++ ")"
  | .isIn, _ => throw (invalidShape leaf "a non-empty array")
  | _, .array _ => throw (invalidShape leaf "a single value")
  | op, value => do
      let item ← encode (isQuoted leaf) value
      return op.sql ++ " " ++ item

end SqlFilter.Sql
