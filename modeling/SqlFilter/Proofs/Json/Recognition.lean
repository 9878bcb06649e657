import Mathlib.Control.Monad.Basic
import SqlFilter.Proofs.Json.Decoding
import SqlFilter.Proofs.Json.Soundness

/-!
# Objects with nodes

An object that has `nodes` is read as a group or makes the reading fail, unless it can be read as a condition as well.
Then a fault in its nodes is overlooked.
-/

set_option autoImplicit false

namespace SqlFilter

namespace Json

theorem member_only {key : String} {members : List (String × Json)} {value other : Json}
    (found : member? key members = some (some value)) (listed : (key, other) ∈ members) : other = value := by
  have kept : (key, other) ∈ members.filter (·.1 == key) := List.mem_filter.mpr ⟨listed, beq_self_eq_true key⟩
  unfold member? at found
  split at found
  · cases found
  · rename_i name first only
    cases found
    rw [only, List.mem_singleton] at kept
    exact (Prod.mk.inj kept).2
  · cases found

end Json

variable {F : Type} [FieldName F]

namespace Node

def HasNodes (members : List (String × Json)) : Prop :=
  "nodes" ∈ members.map Prod.fst

instance (members : List (String × Json)) : Decidable (HasNodes members) :=
  inferInstanceAs (Decidable (_ ∈ _))

/-- The documents in node position, each with what it was read as: a whole document, and what is listed under `nodes`,
or in the third place of an array, in one that was read as a group. -/
inductive Places : Json → Node F → Json → Node F → Prop where
  | root {document : Json} {node : Node F} : Places document node document node
  | underNodes {members : List (String × Json)} {items : List Json} {logic : Logic} {own : Option String}
      {nodes : List (Node F)} {item document : Json} {node other : Node F} (content : ("nodes", .array items) ∈ members)
      (child : (item, node) ∈ items.zip nodes) (deeper : Places item node document other) :
      Places (.object members) (.group logic own nodes) document other
  | inThirdPlace {first second : Json} {items : List Json} {logic : Logic} {own : Option String}
      {nodes : List (Node F)} {item document : Json} {node other : Node F} (child : (item, node) ∈ items.zip nodes)
      (deeper : Places item node document other) :
      Places (.array [first, second, .array items]) (.group logic own nodes) document other

theorem all_decode_zip {items : List Json} {nodes : List (Node F)} (all : AllDecode items nodes) {item : Json}
    {node : Node F} (child : (item, node) ∈ items.zip nodes) : Decodes item node := by
  induction items generalizing nodes with
  | nil => cases child
  | cons first items ih =>
      cases all with
      | cons head tail =>
          rcases List.mem_cons.mp child with own | later
          · cases own
            exact head
          · exact ih tail later

theorem places_decode {document inner : Json} {root node : Node F} (placed : Places document root inner node)
    (decodes : Decodes document root) : Decodes inner node := by
  induction placed with
  | root => exact decodes
  | underNodes content child _ ih =>
      cases decodes with
      | groupObject _ _ _ _ found children =>
          cases Json.member_only found content
          exact ih (all_decode_zip children child)
  | inThirdPlace child _ ih =>
      cases decodes with
      | groupArray _ _ children => exact ih (all_decode_zip children child)

/-- An object that was taken for a condition although it has `nodes`: they are no nodes of a group, and there is all
that a condition needs beside them. -/
structure Overlooked (members : List (String × Json)) (node : Node F) : Prop where
  noGroup : groupOfMembers? (F := F) members (contentsOf members) = none
  condition : ∃ leaf, Leaf.ofMembers? members = some leaf ∧ node = .leaf leaf

theorem object_recognised {members : List (String × Json)} {node : Node F} (decodes : Decodes (.object members) node) :
    (node.isGroup = true → HasNodes members) ∧ (HasNodes members → node.isGroup = true ∨ Overlooked members node) := by
  cases decodes with
  | leafObject noGroup read => exact ⟨nofun, fun _ => .inr ⟨noGroup, _, read, rfl⟩⟩
  | groupObject _ _ _ _ content _ =>
      exact ⟨fun _ => List.mem_map_of_mem (Json.member_found content), fun _ => .inl rfl⟩

/-- What lies in node position of a document whether it is read or not, with nothing around it that is a condition. -/
inductive Surrounds (F : Type) [FieldName F] : Json → Json → Prop where
  | itself {document : Json} : Surrounds F document document
  | underNodes {members : List (String × Json)} {items : List Json} {item document : Json}
      (noCondition : Leaf.ofMembers? (F := F) members = none) (content : ("nodes", .array items) ∈ members)
      (child : item ∈ items) (deeper : Surrounds F item document) : Surrounds F (.object members) document
  | inThirdPlace {first second : Json} {items : List Json} {item document : Json}
      (noCondition : Leaf.ofItems? (F := F) [first, second, .array items] = none) (child : item ∈ items)
      (deeper : Surrounds F item document) : Surrounds F (.array [first, second, .array items]) document

theorem of_items_none {items : List Json} {item : Json} (child : item ∈ items)
    (failed : ofJson? (F := F) item = none) : ofItems? (F := F) items = none := by
  induction items with
  | nil => cases child
  | cons first items ih =>
      rw [ofItems?]
      rcases List.mem_cons.mp child with rfl | later
      · rw [failed]
      · rw [ih later]
        cases ofJson? (F := F) first <;> rfl

theorem group_of_members_none {members : List (String × Json)} {items : List Json}
    (content : ("nodes", .array items) ∈ members) (failed : ofItems? (F := F) items = none) :
    groupOfMembers? (F := F) members (contentsOf members) = none := by
  cases group : groupOfMembers? (F := F) members (contentsOf members) with
  | none => rfl
  | some node =>
      obtain ⟨_, _, _, _, others, nodes, _, _, _, _, found, read, _⟩ := group_of_members_some group
      cases Json.member_only found content
      rw [failed] at read
      cases read

theorem failure_spreads {document inner : Json} (inside : Surrounds F document inner)
    (failed : ofJson? (F := F) inner = none) : ofJson? (F := F) document = none := by
  induction inside with
  | itself => exact failed
  | underNodes noCondition content child _ ih =>
      rw [ofJson?, group_of_members_none content (of_items_none child (ih failed)), noCondition]
      rfl
  | inThirdPlace noCondition child _ ih =>
      rw [ofJson?, content?, of_items_none child (ih failed), noCondition, group_of_none]
      rfl

end Node

namespace Filter

theorem of_text_unmatched {text : String} {document : Json} (accepted : Json.read text = .ok document)
    (present : document ≠ .null) (failed : Node.ofJson? (F := F) document = none) :
    ofJsonText (F := F) text = .error (.json Node.unmatched) := by
  rw [of_text_of_read accepted, ofJson, Node.ofJson, failed]
  · rfl
  · exact present

/-- An object in node position becomes a group only if it has `nodes`, and if it has them it becomes a group or the
read fails, as long as neither the object itself nor, for the failure, an object around it makes a condition as well.
An object that does is taken for that condition when its `nodes` are no nodes of a group. -/
theorem nodes_make_a_group :
    (∀ (text : String) (filter : Filter F), ofJsonText text = .ok filter →
      ∃ document, Json.read text = .ok document ∧ ∀ root ∈ filter.root, ∀ members node,
        Node.Places document root (.object members) node →
          (node.isGroup = true → Node.HasNodes members) ∧
          (Node.HasNodes members → node.isGroup = true ∨ Node.Overlooked members node)) ∧
    ∀ (text : String) (document : Json) (members : List (String × Json)), Json.read text = .ok document →
      Node.Surrounds F document (.object members) → Node.HasNodes members →
      Node.groupOfMembers? (F := F) members (Node.contentsOf members) = none →
      Leaf.ofMembers? (F := F) members = none → ofJsonText (F := F) text = .error (.json Node.unmatched) := by
  constructor
  · intro text filter read
    obtain ⟨document, accepted, decoded⟩ := of_text_read read
    refine ⟨document, accepted, fun root present members node placed => ?_⟩
    exact Node.object_recognised (Node.places_decode placed (of_json_root decoded root present))
  · intro text document members accepted inside _ noGroup noCondition
    have failed : Node.ofJson? (F := F) (.object members) = none := by
      rw [Node.ofJson?, noGroup, noCondition]
      rfl
    have present : document ≠ .null := by
      rintro rfl
      cases inside
    exact of_text_unmatched accepted present (Node.failure_spreads inside failed)

-- Two objects that have the members of a group and of a condition, of which only the second is sound as a group.
def mixedText : String :=
  "\x7b\"logic\": \"or\", \"nodes\": [" ++
    "\x7b\"nodes\": [1], \"logic\": \"and\", \"field\": \"a\", \"op\": \"=\", \"val\": 2\x7d, " ++
    "\x7b\"nodes\": [], \"logic\": \"and\", \"field\": \"a\", \"op\": \"=\", \"val\": 2\x7d]\x7d"

def mixedObject (content : List Json) : List (String × Json) :=
  [("nodes", .array content), ("logic", .string "and"), ("field", .string "a"), ("op", .string "="),
    ("val", .number (.int 2))]

def mixedDocument : Json :=
  .object [("logic", .string "or"),
    ("nodes", .array [.object (mixedObject [.number (.int 1)]), .object (mixedObject [])])]

def mixedFilter : Filter String :=
  ⟨some (.group .or none [.leaf (.of "a" .eq (.int 2)), .group .and none []])⟩

-- The same without the members of a condition.
def brokenGroups : String :=
  "\x7b\"logic\": \"or\", \"nodes\": [\x7b\"nodes\": [1], \"logic\": \"and\"\x7d]\x7d"

theorem mixed_objects_recognised :
    ofJsonText mixedText = .ok mixedFilter ∧
      Node.Overlooked (mixedObject [.number (.int 1)]) (.leaf (.of "a" .eq (.int 2))) ∧
      ofJsonText (F := String) brokenGroups = .error (.json Node.unmatched) := by
  have mixedRead : Json.read mixedText = .ok mixedDocument := by decide +kernel
  have accepted : ofJsonText mixedText = .ok mixedFilter := of_text_of_read mixedRead
  have brokenRead : Json.read brokenGroups = .ok (.object [("logic", .string "or"),
      ("nodes", .array [.object [("nodes", .array [.number (.int 1)]), ("logic", .string "and")]])]) := by
    decide +kernel
  refine ⟨accepted, ?_, ?_⟩
  · obtain ⟨document, read, objects⟩ := nodes_make_a_group.1 mixedText mixedFilter accepted
    cases mixedRead.symm.trans read
    have placed : Node.Places mixedDocument (.group .or none [.leaf (.of "a" .eq (.int 2)), .group .and none []])
        (.object (mixedObject [.number (.int 1)])) (.leaf (.of "a" .eq (.int 2))) :=
      .underNodes (List.mem_cons_of_mem _ (List.mem_singleton_self _)) List.mem_cons_self .root
    rcases (objects _ rfl _ _ placed).2 (by decide) with group | overlooked
    · cases group
    · exact overlooked
  · exact nodes_make_a_group.2 brokenGroups _ [("nodes", .array [.number (.int 1)]), ("logic", .string "and")]
      brokenRead (.underNodes rfl (by simp) (List.mem_singleton_self _) .itself) (by decide) rfl rfl

end Filter

end SqlFilter
