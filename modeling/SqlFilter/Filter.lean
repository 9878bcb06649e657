import SqlFilter.Error
import SqlFilter.Node.Json

/-!
A filter: one tree or none. It changes only by getting a new root; extending it puts the old root and a new tree
under a fresh group.
-/

set_option autoImplicit false

namespace SqlFilter

structure Filter (F : Type) where
  root : Option (Node F)

namespace Filter

variable {F : Type}

def empty : Filter F :=
  ⟨none⟩

instance : Inhabited (Filter F) :=
  ⟨empty⟩

def isEmpty (filter : Filter F) : Bool :=
  filter.root.isNone

def update (_ : Filter F) (root : Option (Node F)) : Filter F :=
  ⟨root⟩

-- The filter whose root is a group of the old root and the operand, as far as they are present.
def combine (logic : Logic) (filter : Filter F) (operand : Option (Node F)) : Filter F :=
  ⟨some (.join logic [filter.root, operand])⟩

def addAnd (filter : Filter F) (operand : Option (Node F)) : Filter F :=
  combine .and filter operand

def addOr (filter : Filter F) (operand : Option (Node F)) : Filter F :=
  combine .or filter operand

def join (logic : Logic) (filters : List (Filter F)) : Filter F :=
  ⟨some (.join logic (filters.map root))⟩

def equal [BEq F] (a b : Filter F) : Bool :=
  a.root == b.root

section Json

variable [FieldName F]

def toJson (filter : Filter F) : Json :=
  match filter.root with
  | none => .null
  | some node => node.toJson

def toJsonText (filter : Filter F) : String :=
  filter.toJson.compact

def toPrettyText (filter : Filter F) : String :=
  filter.toJson.pretty

def ofJson : Json → Except Json.ReadError (Filter F)
  | .null => .ok empty
  | document =>
      match Node.ofJson document with
      | .ok node => .ok ⟨some node⟩
      | .error e => .error e

def ofJsonText (text : String) : Except FilterError (Filter F) :=
  match Json.readAs ofJson text with
  | .ok filter => .ok filter
  | .error e => .error (.json e)

end Json

end Filter

end SqlFilter
