import Mathlib.Control.Monad.Basic
import SqlFilter.Proofs.Json.Numbers

/-!
# Accepted texts settle

A text that is accepted is printed and read back as the same filter, and the second printing is the first.
-/

set_option autoImplicit false

namespace SqlFilter

namespace Json

theorem item_nesting_of_mem {items : List Json} {item : Json} (member : item ∈ items) :
    item.nesting ≤ itemNesting items := by
  induction items with
  | nil => cases member
  | cons first items ih =>
      rw [itemNesting]
      rcases List.mem_cons.mp member with rfl | later
      · exact Nat.le_max_left _ _
      · exact Nat.le_trans (ih later) (Nat.le_max_right _ _)

theorem member_nesting_of_mem {members : List (String × Json)} {key : String} {value : Json}
    (member : (key, value) ∈ members) : value.nesting ≤ memberNesting members := by
  induction members with
  | nil => cases member
  | cons first members ih =>
      rw [memberNesting]
      rcases List.mem_cons.mp member with rfl | later
      · exact Nat.le_max_left _ _
      · exact Nat.le_trans (ih later) (Nat.le_max_right _ _)

theorem place_nesting (key : String) (value : Json) (members : List (String × Json)) :
    memberNesting (place key value members) ≤ max value.nesting (memberNesting members) := by
  induction members with
  | nil => exact Nat.le_refl _
  | cons member members ih =>
      unfold place
      split
      · exact Nat.le_refl _
      · split
        · exact Nat.le_max_right _ _
        · rw [memberNesting, memberNesting]
          omega

mutual
theorem canonical_nesting (document : Json) : document.canonical.nesting ≤ document.nesting := by
  cases document with
  | null | bool b | number n | string s => exact Nat.le_refl _
  | array items =>
      rw [canonical, nesting, nesting]
      exact Nat.add_le_add_left (canonical_items_nesting items) 1
  | object members =>
      rw [canonical, nesting, nesting]
      exact Nat.add_le_add_left (canonical_members_nesting members) 1
theorem canonical_items_nesting (items : List Json) : itemNesting (canonicalItems items) ≤ itemNesting items := by
  cases items with
  | nil => exact Nat.le_refl _
  | cons item items =>
      have head := canonical_nesting item
      have tail := canonical_items_nesting items
      rw [canonicalItems, itemNesting, itemNesting]
      omega
theorem canonical_members_nesting (members : List (String × Json)) :
    memberNesting (canonicalMembers members) ≤ memberNesting members := by
  cases members with
  | nil => exact Nat.le_refl _
  | cons member members =>
      obtain ⟨key, value⟩ := member
      have head := canonical_nesting value
      have tail := canonical_members_nesting members
      have placed := place_nesting key value.canonical (canonicalMembers members)
      rw [canonicalMembers, memberNesting]
      omega
end

end Json

namespace Value

mutual
theorem of_json_nesting (document : Json) : (ofJson document).toJson.nesting ≤ document.nesting := by
  cases document with
  | null | bool b | string s => exact Nat.le_refl _
  | number n =>
      cases n with
      | float x => exact Nat.le_refl _
      | int n =>
          rw [ofJson, ofNumber, ofInt]
          split <;> exact Nat.le_refl _
  | array items =>
      rw [ofJson, toJson, Json.nesting, Json.nesting]
      exact Nat.add_le_add_left (of_json_items_nesting items) 1
  | object members => exact Nat.add_le_add_left (Json.canonical_members_nesting members) 1
theorem of_json_items_nesting (items : List Json) :
    Json.itemNesting (toJsonItems (ofJsonItems items)) ≤ Json.itemNesting items := by
  cases items with
  | nil => exact Nat.le_refl _
  | cons item items =>
      have head := of_json_nesting item
      have tail := of_json_items_nesting items
      rw [ofJsonItems, toJsonItems, Json.itemNesting, Json.itemNesting]
      omega
end

end Value

theorem Leaf.to_json_nesting (leaf : Leaf String) : leaf.toJson.nesting = 1 + leaf.value.toJson.nesting := by
  obtain ⟨field, op, value, type⟩ := leaf
  cases type <;> simp [toJson, Json.nesting, Json.memberNesting]

namespace Node

theorem group_to_json_nesting (logic : Logic) (own : Option String) (nodes : List (Node String)) :
    (Node.group logic own nodes).toJson.nesting = 1 + (Json.array (toJsonNodes nodes)).nesting := by
  cases own <;> simp [toJson, Json.nesting, Json.memberNesting]

-- Written again, a tree nests no deeper than the document that it was read from, whatever spelling that one has.
mutual
theorem decodes_nesting (node : Node String) (document : Json) (decodes : Decodes document node) :
    node.toJson.nesting ≤ document.nesting := by
  cases decodes with
  | @leafObject members leaf _ read =>
      obtain ⟨value, member, same⟩ := Leaf.of_members_value read
      have kept := Json.member_nesting_of_mem member
      have value := Value.of_json_nesting value
      rw [toJson, Leaf.to_json_nesting, same, Json.nesting]
      omega
  | @leafArray items leaf read =>
      obtain ⟨value, member, same⟩ := Leaf.of_items_value read
      have kept := Json.item_nesting_of_mem member
      have value := Value.of_json_nesting value
      rw [toJson, Leaf.to_json_nesting, same, Json.nesting]
      omega
  | @groupObject members _ _ _ _ items nodes _ _ _ _ content children =>
      have kept := Json.member_nesting_of_mem (Json.member_found content)
      have inner := all_decode_nesting nodes items children
      rw [group_to_json_nesting, Json.nesting, Json.nesting]
      rw [Json.nesting] at kept
      omega
  | @groupArray logicText ownText _ _ items nodes _ _ children =>
      have kept : (Json.array items).nesting ≤ Json.itemNesting [logicText, ownText, .array items] :=
        Json.item_nesting_of_mem (by simp)
      have inner := all_decode_nesting nodes items children
      rw [group_to_json_nesting, Json.nesting, Json.nesting]
      rw [Json.nesting] at kept
      omega
theorem all_decode_nesting (nodes : List (Node String)) (items : List Json) (decode : AllDecode items nodes) :
    Json.itemNesting (toJsonNodes nodes) ≤ Json.itemNesting items := by
  cases decode with
  | nil => exact Nat.le_refl _
  | @cons item node items nodes head tail =>
      have head := decodes_nesting node item head
      have tail := all_decode_nesting nodes items tail
      rw [toJsonNodes, Json.itemNesting, Json.itemNesting]
      omega
end

end Node

namespace Filter

theorem of_json_nesting {document : Json} {filter : Filter String} (read : ofJson document = .ok filter) :
    filter.toJson.nesting ≤ document.nesting := by
  have decodes := of_json_root read
  obtain ⟨root⟩ := filter
  cases root with
  | none => exact Nat.zero_le _
  | some root => exact Node.decodes_nesting root document (decodes root rfl)

theorem of_text_nesting {text : String} {filter : Filter String} (read : ofJsonText text = .ok filter) :
    filter.toJson.nesting ≤ 127 := by
  obtain ⟨document, accepted, decoded⟩ := of_text_read read
  exact Nat.le_trans (of_json_nesting decoded) (Json.read_text_sound accepted).2

/-- Whatever spelling a filter was read in, its own two texts are read as the same filter, so that writing what has
been read settles a text for good. -/
theorem accepted_text_settles (text : String) (filter : Filter String) (read : ofJsonText text = .ok filter)
    (floatFree : filter.FloatFree) :
    ofJsonText filter.toJsonText = .ok filter ∧ ofJsonText filter.toPrettyText = .ok filter ∧
      (ofJsonText (F := String) filter.toJsonText).map toJsonText = (ofJsonText (F := String) text).map toJsonText := by
  have kept := exact_of_read text filter read floatFree
  have settled {style : Json.Style} (blank : style.Blank) :
      ofJsonText (filter.toJson.write style 0) = .ok filter := by
    have nesting := Json.text_nesting_write blank filter.toJson (filter.to_json_readable kept)
    rw [of_text_written blank filter kept, nesting, if_pos (of_text_nesting read)]
  have compact : ofJsonText filter.toJsonText = .ok filter := settled Json.Style.compact_blank
  exact ⟨compact, settled Json.Style.pretty_blank, by rw [compact, read]⟩

-- Every part of it is spelled otherwise than it would be written.
def oddSpelling : String :=
  "[\"or\", null, [\x7b\"val\": \x7b\"b\": 1, \"a\": [9223372036854775808], \"b\": -1\x7d, \"x\": [], \"x\": null, " ++
    "\"op\": \x7b\"=\": null\x7d, \"f\\u0069eld\": \"a\", \"dataType\": \"epoch\"\x7d]]"

def plainlySpelled : Filter String :=
  ⟨some (.group .or none [.leaf ⟨"a", .eq, .object (.ofMembers [("a", .array [.number (.int 9223372036854775808)]),
    ("b", .number (.int (-1)))]), some .epoch⟩])⟩

theorem lists_in_lists_float_free (depth : Nat) : (listsInLists depth).FloatFree := by
  induction depth with
  | zero => trivial
  | succ depth ih => exact ⟨ih, trivial⟩

theorem odd_spelling_settles :
    ofJsonText oddSpelling = .ok plainlySpelled ∧ ofJsonText plainlySpelled.toPrettyText = .ok plainlySpelled ∧
      ofJsonText (underLists 125).toJsonText = .ok (underLists 125) ∧
      ofJsonText (underLists 125).toPrettyText = .ok (underLists 125) := by
  have read : Json.read oddSpelling = .ok (.array [.string "or", .null, .array [.object [
      ("val", .object [("b", .number (.int 1)), ("a", .array [.number (.int 9223372036854775808)]),
        ("b", .number (.int (-1)))]), ("x", .array []), ("x", .null), ("op", .object [("=", .null)]),
      ("field", .string "a"), ("dataType", .string "epoch")]]]) := by
    decide +kernel
  have odd : ofJsonText oddSpelling = .ok plainlySpelled := of_text_of_read read
  have limit : ofJsonText (underLists 125).toJsonText = .ok (underLists 125) := by
    refine (of_text_written Json.Style.compact_blank _ (under_lists_exact 125)).trans (if_pos ?_)
    exact Nat.le_of_eq (under_lists_nesting 125)
  have oddFloatFree : plainlySpelled.FloatFree := by
    rintro root ⟨⟩ leaf member
    rw [List.mem_singleton.mp member]
    exact ⟨⟨trivial, trivial⟩, trivial, trivial⟩
  have limitFloatFree : (underLists 125).FloatFree := by
    rintro root ⟨⟩ leaf member
    rw [List.mem_singleton.mp member]
    exact lists_in_lists_float_free 125
  exact ⟨odd, (accepted_text_settles _ _ odd oddFloatFree).2.1, limit,
    (accepted_text_settles _ _ limit limitFloatFree).2.1⟩

end Filter

end SqlFilter
