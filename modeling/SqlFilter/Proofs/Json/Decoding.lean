import SqlFilter.Filter
import SqlFilter.Proofs.Json.Soundness

/-!
# What a text decodes to

The readings of a document as a relation: which tree it stands for, if any, and through which of its members.
-/

set_option autoImplicit false

namespace SqlFilter

theorem Json.member_found {key : String} {members : List (String × Json)} {document : Json}
    (found : member? key members = some (some document)) : (key, document) ∈ members := by
  unfold member? at found
  split at found
  · cases found
  · rename_i name value only
    cases found
    have listed : (name, document) ∈ members.filter (·.1 == key) := only ▸ List.mem_singleton_self _
    obtain ⟨member, same⟩ := List.mem_filter.mp listed
    exact beq_iff_eq.mp same ▸ member
  · cases found

variable {F : Type}

theorem Node.group_of_some {logicText : Json} {ownText : Option Json} {content : Option (List (Node F))} {node : Node F}
    (read : groupOf? logicText ownText content = some node) :
    ∃ logic own nodes, Logic.ofJson? logicText = some logic ∧ Json.optional? Json.text? ownText = some own ∧
      content = some nodes ∧ node = .group logic own nodes := by
  simp only [groupOf?, Option.bind_eq_bind, Option.bind_eq_some_iff, Option.pure_def, Option.some.injEq] at read
  obtain ⟨logic, logicRead, own, ownRead, nodes, present, rfl⟩ := read
  exact ⟨logic, own, nodes, logicRead, ownRead, present, rfl⟩

theorem Node.group_of_none (logicText : Json) (ownText : Option Json) :
    groupOf? (F := F) logicText ownText none = none := by
  rw [groupOf?]
  cases Logic.ofJson? logicText <;> cases Json.optional? Json.text? ownText <;> rfl

variable [FieldName F]

namespace Leaf

theorem of_parts_value {field op value : Json} {type : Option Json} {leaf : Leaf F}
    (read : ofParts? field op value type = some leaf) : leaf.value = .ofJson value := by
  simp only [ofParts?, Option.bind_eq_bind, Option.bind_eq_some_iff, Option.pure_def, Option.some.injEq] at read
  obtain ⟨_, _, _, _, _, _, rfl⟩ := read
  rfl

theorem of_members_value {members : List (String × Json)} {leaf : Leaf F} (read : ofMembers? members = some leaf) :
    ∃ value, ("val", value) ∈ members ∧ leaf.value = .ofJson value := by
  simp only [ofMembers?, Option.bind_eq_bind, Option.bind_eq_some_iff] at read
  obtain ⟨_, _, field, rfl, _, _, op, rfl, _, found, value, rfl, type, _, parts⟩ := read
  exact ⟨value, Json.member_found found, of_parts_value parts⟩

theorem of_items_value {items : List Json} {leaf : Leaf F} (read : ofItems? items = some leaf) :
    ∃ value ∈ items, leaf.value = .ofJson value := by
  unfold ofItems? at read
  split at read
  · exact ⟨_, by simp, of_parts_value read⟩
  · exact ⟨_, by simp, of_parts_value read⟩
  · cases read

end Leaf

namespace Node

-- The trees that documents stand for, rule by rule. Of an object, the reading as a group comes first.
mutual
inductive Decodes : Json → Node F → Prop where
  | leafObject {members : List (String × Json)} {leaf : Leaf F}
      (noGroup : groupOfMembers? (F := F) members (contentsOf members) = none)
      (read : Leaf.ofMembers? members = some leaf) : Decodes (.object members) (.leaf leaf)
  | leafArray {items : List Json} {leaf : Leaf F} (read : Leaf.ofItems? items = some leaf) :
      Decodes (.array items) (.leaf leaf)
  | groupObject {members : List (String × Json)} {logicText : Json} {logic : Logic} {ownText : Option Json}
      {own : Option String} {items : List Json} {nodes : List (Node F)}
      (logicMember : Json.member? "logic" members = some (some logicText))
      (logicRead : Logic.ofJson? logicText = some logic)
      (ownMember : Json.member? "fieldPrefix" members = some ownText)
      (ownRead : Json.optional? Json.text? ownText = some own)
      (content : Json.member? "nodes" members = some (some (.array items))) (children : AllDecode items nodes) :
      Decodes (.object members) (.group logic own nodes)
  | groupArray {logicText ownText : Json} {logic : Logic} {own : Option String} {items : List Json}
      {nodes : List (Node F)} (logicRead : Logic.ofJson? logicText = some logic)
      (ownRead : Json.optional? Json.text? (some ownText) = some own) (children : AllDecode items nodes) :
      Decodes (.array [logicText, ownText, .array items]) (.group logic own nodes)
inductive AllDecode : List Json → List (Node F) → Prop where
  | nil : AllDecode [] []
  | cons {item : Json} {node : Node F} {items : List Json} {nodes : List (Node F)} (head : Decodes item node)
      (tail : AllDecode items nodes) : AllDecode (item :: items) (node :: nodes)
end

theorem contents_of_eq (members : List (String × Json)) :
    contentsOf (F := F) members = (members.filter (·.1 == "nodes")).map fun member => content? member.2 := by
  induction members with
  | nil => rfl
  | cons member members ih =>
      obtain ⟨key, value⟩ := member
      rw [contentsOf, List.filter_cons, ih]
      by_cases same : key = "nodes"
      · simp [same]
      · simp [same]

theorem content_some {document : Json} {nodes : List (Node F)} (read : content? document = some nodes) :
    ∃ items, document = .array items ∧ ofItems? items = some nodes := by
  cases document with
  | array items => exact ⟨items, rfl, read⟩
  | null | bool b | number n | string s | object members => cases read

theorem contents_of_one {members : List (String × Json)} {nodes : List (Node F)}
    (only : contentsOf members = [some nodes]) :
    ∃ items, Json.member? "nodes" members = some (some (.array items)) ∧ ofItems? items = some nodes := by
  rw [contents_of_eq, List.map_eq_singleton_iff] at only
  obtain ⟨⟨key, document⟩, listed, read⟩ := only
  obtain ⟨items, rfl, all⟩ := content_some read
  exact ⟨items, by rw [Json.member?, listed], all⟩

theorem group_of_members_some {members : List (String × Json)} {node : Node F}
    (read : groupOfMembers? members (contentsOf members) = some node) :
    ∃ logicText logic ownText own items nodes, Json.member? "logic" members = some (some logicText) ∧
      Logic.ofJson? logicText = some logic ∧ Json.member? "fieldPrefix" members = some ownText ∧
      Json.optional? Json.text? ownText = some own ∧
      Json.member? "nodes" members = some (some (.array items)) ∧ ofItems? items = some nodes ∧
      node = .group logic own nodes := by
  unfold groupOfMembers? at read
  split at read
  · rename_i content only
    simp only [Option.bind_eq_bind, Option.bind_eq_some_iff] at read
    obtain ⟨_, logicMember, logicText, rfl, ownText, ownMember, group⟩ := read
    obtain ⟨logic, own, nodes, logicRead, ownRead, rfl, rfl⟩ := group_of_some group
    obtain ⟨items, found, all⟩ := contents_of_one only
    exact ⟨logicText, logic, ownText, own, items, nodes, logicMember, logicRead, ownMember, ownRead, found, all, rfl⟩
  · cases read

theorem of_array {items : List Json} {node : Node F} (read : ofJson? (.array items) = some node) :
    (∃ leaf, Leaf.ofItems? items = some leaf ∧ node = .leaf leaf) ∨
      ∃ first second third, items = [first, second, third] ∧
        groupOf? first (some second) (content? third) = some node := by
  by_cases three : ∃ first second third, items = [first, second, third]
  · obtain ⟨first, second, third, rfl⟩ := three
    rw [ofJson?, Option.orElse_eq_orElse, Option.orElse_eq_or, Option.or_eq_some_iff] at read
    rcases read with group | ⟨_, condition⟩
    · exact .inr ⟨first, second, third, rfl, group⟩
    · obtain ⟨leaf, found, rfl⟩ := Option.map_eq_some_iff.mp condition
      exact .inl ⟨leaf, found, rfl⟩
  · rw [ofJson?] at read
    · obtain ⟨leaf, found, rfl⟩ := Option.map_eq_some_iff.mp read
      exact .inl ⟨leaf, found, rfl⟩
    · intro first second third same
      exact three ⟨first, second, third, same⟩

-- The induction is on the tree: the document gives no hold, as its children may be wrapped in an array of three or
-- stand under `nodes`.
mutual
theorem decodes_of_read (node : Node F) (document : Json) (read : ofJson? document = some node) :
    Decodes document node := by
  cases document with
  | null | bool b | number n | string s => cases read
  | object members =>
      rw [ofJson?, Option.orElse_eq_orElse, Option.orElse_eq_or, Option.or_eq_some_iff] at read
      rcases read with group | ⟨noGroup, condition⟩
      · obtain ⟨logicText, logic, ownText, own, items, nodes, logicMember, logicRead, ownMember, ownRead, content, all,
          rfl⟩ := group_of_members_some group
        exact .groupObject logicMember logicRead ownMember ownRead content (all_decode_of_read nodes items all)
      · obtain ⟨leaf, found, rfl⟩ := Option.map_eq_some_iff.mp condition
        exact .leafObject noGroup found
  | array items =>
      obtain ⟨leaf, found, rfl⟩ | ⟨first, second, third, rfl, group⟩ := of_array read
      · exact .leafArray found
      · obtain ⟨logic, own, nodes, logicRead, ownRead, present, rfl⟩ := group_of_some group
        obtain ⟨items, rfl, all⟩ := content_some present
        exact .groupArray logicRead ownRead (all_decode_of_read nodes items all)
theorem all_decode_of_read (nodes : List (Node F)) (items : List Json) (read : ofItems? items = some nodes) :
    AllDecode items nodes := by
  cases items with
  | nil =>
      cases read
      exact .nil
  | cons item items =>
      rw [ofItems?] at read
      split at read
      · rename_i node others first rest
        cases read
        exact .cons (decodes_of_read node item first) (all_decode_of_read others items rest)
      · cases read
end

end Node

namespace Filter

theorem of_json_root {document : Json} {filter : Filter F} (read : ofJson document = .ok filter) :
    ∀ root ∈ filter.root, Node.Decodes document root := by
  unfold ofJson at read
  split at read
  · cases read
    nofun
  · split at read
    · rename_i node found
      cases read
      rintro root ⟨⟩
      unfold Node.ofJson at found
      split at found
      · cases found
        exact Node.decodes_of_read _ _ (by assumption)
      · cases found
    · cases read

theorem of_text_read {text : String} {filter : Filter F} (read : ofJsonText text = .ok filter) :
    ∃ document, Json.read text = .ok document ∧ ofJson document = .ok filter := by
  unfold ofJsonText at read
  split at read
  · rename_i found
    cases read
    exact Json.read_of_read_as found
  · cases read

theorem of_text_of_read {text : String} {document : Json} (accepted : Json.read text = .ok document) :
    ofJsonText (F := F) text = (ofJson document).mapError .json := by
  rw [ofJsonText, Json.read_as_of_read ofJson accepted]
  cases ofJson (F := F) document <;> rfl

end Filter

end SqlFilter
