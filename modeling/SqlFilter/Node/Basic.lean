import SqlFilter.Logic
import SqlFilter.Operator
import SqlFilter.Value.Basic

/-!
Filter trees: conditions combined by groups, over any type of field names.
-/

set_option autoImplicit false

namespace SqlFilter

-- A type of field names: how a name is spelled in SQL and in JSON, and which documents are names.
class FieldName (F : Type) where
  sql : F → String
  json : F → String
  ofJson? : Json → Option F

instance : FieldName String where
  sql name := name
  json name := name
  ofJson?
    | .string name => some name
    | _ => none

structure Leaf (F : Type) where
  field : F
  op : Operator
  value : Value
  -- Decides the quoting of the value in place of the type that the value itself has.
  dataType : Option DataType

-- A filter tree. A group may have a text that goes before the fields of its own conditions.
inductive Node (F : Type)
  | leaf (condition : Leaf F)
  | group (logic : Logic) (fieldPrefix : Option String) (nodes : List (Node F))

variable {F : Type}

def Leaf.of (field : F) (op : Operator) (value : Value) : Leaf F :=
  ⟨field, op, value, none⟩

def Leaf.withDataType (leaf : Leaf F) (type : DataType) : Leaf F :=
  { leaf with dataType := some type }

namespace Node

def isGroup : Node F → Bool
  | .leaf _ => false
  | .group .. => true

def fieldPrefix : Node F → Option String
  | .leaf _ => none
  | .group _ fieldPrefix _ => fieldPrefix

-- The group of the present ones among some operands. It is a group even for one operand or none.
def join (logic : Logic) (operands : List (Option (Node F))) : Node F :=
  .group logic none (operands.filterMap id)

mutual
def leaves : Node F → List (Leaf F)
  | .leaf condition => [condition]
  | .group _ _ nodes => leavesOf nodes

def leavesOf : List (Node F) → List (Leaf F)
  | [] => []
  | node :: nodes => leaves node ++ leavesOf nodes
end

mutual
def leafCount : Node F → Nat
  | .leaf _ => 1
  | .group _ _ nodes => leafCounts nodes

def leafCounts : List (Node F) → Nat
  | [] => 0
  | node :: nodes => leafCount node + leafCounts nodes
end

mutual
-- How deeply groups nest in a tree: zero for a lone condition.
def depth : Node F → Nat
  | .leaf _ => 0
  | .group _ _ nodes => 1 + maxDepth nodes

def maxDepth : List (Node F) → Nat
  | [] => 0
  | node :: nodes => max (depth node) (maxDepth nodes)
end

def equalLeaf [BEq F] (a b : Leaf F) : Bool :=
  a.field == b.field && a.op == b.op && a.value == b.value && a.dataType == b.dataType

mutual
def equal [BEq F] : Node F → Node F → Bool
  | .leaf a, .leaf b => equalLeaf a b
  | .group l p xs, .group m q ys => l == m && p == q && equalNodes xs ys
  | _, _ => false

def equalNodes [BEq F] : List (Node F) → List (Node F) → Bool
  | [], [] => true
  | x :: xs, y :: ys => equal x y && equalNodes xs ys
  | _, _ => false
end

instance [BEq F] : BEq (Node F) :=
  ⟨equal⟩

end Node

end SqlFilter
