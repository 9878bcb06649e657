import SqlFilter.Node.Basic
import SqlFilter.Value.Json

/-!
Filter trees as JSON. A group is an object with `logic`, `fieldPrefix` and `nodes`, a condition one with `field`, `op`,
`val` and `dataType`. Reading also takes either as an array of these in order, and skips members that it does not know.
-/

set_option autoImplicit false

namespace SqlFilter

def Operator.ofJson? (document : Json) : Option Operator :=
  document.caseName?.bind ofSql?

def Logic.ofJson? (document : Json) : Option Logic :=
  document.caseName?.bind ofSql?

def DataType.ofJson? : Json → Option DataType
  | .number (.int code) => if 0 ≤ code then ofCode? code.toNat else none
  | .string name => ofName? name
  | _ => none

-- An optional part of a document: absent, null, or what `decode` accepts.
def Json.optional? {α : Type} (decode : Json → Option α) : Option Json → Option (Option α)
  | none | some .null => some none
  | some document => (decode document).map some

def Json.text? : Json → Option String
  | .string s => some s
  | _ => none

variable {F : Type} [FieldName F]

namespace Leaf

def toJson (leaf : Leaf F) : Json :=
  .object ([("field", .string (FieldName.json leaf.field)), ("op", .string leaf.op.sql), ("val", leaf.value.toJson)] ++
    match leaf.dataType with
    | none => []
    | some type => [("dataType", .number (.int type.code))])

def ofParts? (field op value : Json) (type : Option Json) : Option (Leaf F) := do
  return ⟨← FieldName.ofJson? field, ← Operator.ofJson? op, .ofJson value, ← Json.optional? DataType.ofJson? type⟩

-- The condition with these members. None but the type may be missing, and none doubled.
def ofMembers? (members : List (String × Json)) : Option (Leaf F) := do
  ofParts? (← (← Json.member? "field" members)) (← (← Json.member? "op" members))
    (← (← Json.member? "val" members)) (← Json.member? "dataType" members)

def ofItems? : List Json → Option (Leaf F)
  | [field, op, value] => ofParts? field op value none
  | [field, op, value, type] => ofParts? field op value (some type)
  | _ => none

end Leaf

namespace Node

mutual
def toJson : Node F → Json
  | .leaf condition => condition.toJson
  | .group logic fieldPrefix nodes =>
      .object ([("logic", .string logic.sql)] ++
        (match fieldPrefix with
        | none => []
        | some text => [("fieldPrefix", .string text)]) ++
        [("nodes", .array (toJsonNodes nodes))])

def toJsonNodes : List (Node F) → List Json
  | [] => []
  | node :: nodes => toJson node :: toJsonNodes nodes
end

def groupOf? (logic : Json) (fieldPrefix : Option Json) (nodes : Option (List (Node F))) : Option (Node F) := do
  return .group (← Logic.ofJson? logic) (← Json.optional? Json.text? fieldPrefix) (← nodes)

def groupOfMembers? (members : List (String × Json)) (contents : List (Option (List (Node F)))) : Option (Node F) := do
  match contents with
  | [nodes] => groupOf? (← (← Json.member? "logic" members)) (← Json.member? "fieldPrefix" members) nodes
  | _ => none

mutual
-- The tree that a document stands for: a group if it has the shape of one, else a condition.
def ofJson? : Json → Option (Node F)
  | .object members => (groupOfMembers? members (contentsOf members)) <|> (Leaf.ofMembers? members).map .leaf
  | .array [first, second, third] =>
      groupOf? first (some second) (content? third) <|> (Leaf.ofItems? [first, second, third]).map .leaf
  | .array items => (Leaf.ofItems? items).map .leaf
  | .null | .bool _ | .number _ | .string _ => none

def content? : Json → Option (List (Node F))
  | .array items => ofItems? items
  | .object _ | .null | .bool _ | .number _ | .string _ => none

def ofItems? : List Json → Option (List (Node F))
  | [] => some []
  | item :: items =>
      match ofJson? item, ofItems? items with
      | some node, some nodes => some (node :: nodes)
      | _, _ => none

def contentsOf : List (String × Json) → List (Option (List (Node F)))
  | [] => []
  | (key, value) :: members => if key = "nodes" then content? value :: contentsOf members else contentsOf members
end

def unmatched : Json.ReadError :=
  .mismatch "data did not match any variant of untagged enum Node"

def ofJson (document : Json) : Except Json.ReadError (Node F) :=
  match ofJson? document with
  | some node => .ok node
  | none => .error unmatched

def read (text : String) : Except Json.ReadError (Node F) :=
  Json.readAs ofJson text

end Node

end SqlFilter
