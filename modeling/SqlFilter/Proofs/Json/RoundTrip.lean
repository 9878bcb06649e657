import SqlFilter.Filter
import SqlFilter.Proofs.Json.Reading

/-!
# JSON texts of filters are read back

A filter is read back from its own JSON as long as the text opens no more than 127 brackets at once, and is refused
beyond that. Compact and pretty texts do not differ in this.
-/

set_option autoImplicit false

namespace SqlFilter

theorem Number.wrap_fits (n : Int) (fits : (Number.int n).Fits) : (Number.int n).wrap = .int n := by
  by_cases small : n < 9223372036854775808
  · rw [wrap, if_pos small, Int64.toInt_ofInt_of_le fits.1 small]
  · have size : n.toNat < UInt64.size := by
      have upper := fits.2
      simp only [UInt64.size]
      omega
    have whole : (n.toNat : Int) = n := Int.toNat_of_nonneg (by omega)
    rw [wrap, if_neg small, UInt64.toNat_ofNat_of_lt' size, whole]

namespace Json

mutual
def FloatFree : Json → Prop
  | .null | .bool _ | .string _ | .number (.int _) => True
  | .number (.float _) => False
  | .array items => ItemsFloatFree items
  | .object members => MembersFloatFree members
def ItemsFloatFree : List Json → Prop
  | [] => True
  | item :: items => item.FloatFree ∧ ItemsFloatFree items
def MembersFloatFree : List (String × Json) → Prop
  | [] => True
  | (_, value) :: members => value.FloatFree ∧ MembersFloatFree members
end

mutual
theorem readable_of_canonical (document : Json) (canonical : document.IsCanonical) (floatFree : document.FloatFree) :
    document.Readable := by
  cases document with
  | null | bool b | string s => trivial
  | number n =>
      cases n with
      | int n => exact canonical
      | float x => exact floatFree.elim
  | array items => exact items_readable_of_canonical items canonical floatFree
  | object members => exact members_readable_of_canonical members canonical.2 floatFree
theorem items_readable_of_canonical (items : List Json) (canonical : AreCanonical items)
    (floatFree : ItemsFloatFree items) : AllReadable items := by
  cases items with
  | nil => trivial
  | cons item items =>
      exact ⟨readable_of_canonical item canonical.1 floatFree.1,
        items_readable_of_canonical items canonical.2 floatFree.2⟩
theorem members_readable_of_canonical (members : List (String × Json)) (canonical : HasCanonical members)
    (floatFree : MembersFloatFree members) : MembersReadable members := by
  cases members with
  | nil => trivial
  | cons member members =>
      exact ⟨readable_of_canonical member.2 canonical.1 floatFree.1,
        members_readable_of_canonical members canonical.2 floatFree.2⟩
end

theorem place_first {α : Type} (key : String) (value : α) (members : List (String × α))
    (rising : Rising ((key, value) :: members)) : place key value members = (key, value) :: members := by
  cases members with
  | nil => rfl
  | cons member members =>
      rw [place, if_pos ((List.pairwise_cons.mp rising).1 member List.mem_cons_self)]

mutual
theorem canonical_fixed (document : Json) (fixed : document.IsCanonical) : document.canonical = document := by
  cases document with
  | null | bool b | string s => rfl
  | number n =>
      cases n with
      | int n => rw [canonical, Number.wrap_fits n fixed]
      | float x => rfl
  | array items => rw [canonical, canonical_items_fixed items fixed]
  | object members => rw [canonical, canonical_members_fixed members fixed.1 fixed.2]
theorem canonical_items_fixed (items : List Json) (fixed : AreCanonical items) : canonicalItems items = items := by
  cases items with
  | nil => rfl
  | cons item items => rw [canonicalItems, canonical_fixed item fixed.1, canonical_items_fixed items fixed.2]
theorem canonical_members_fixed (members : List (String × Json)) (rising : Rising members)
    (fixed : HasCanonical members) : canonicalMembers members = members := by
  cases members with
  | nil => rfl
  | cons member members =>
      obtain ⟨key, value⟩ := member
      rw [canonicalMembers, canonical_fixed value fixed.1,
        canonical_members_fixed members (List.pairwise_cons.mp rising).2 fixed.2, place_first key value members rising]
end

end Json

theorem JsonObject.of_members_members (o : JsonObject) : ofMembers o.members = o := by
  obtain ⟨members, rising, fixed⟩ := o
  simp only [ofMembers, Json.canonical_members_fixed members rising fixed]

namespace Value

theorem to_json_items_map (values : List Value) : toJsonItems values = values.map toJson := by
  induction values with
  | nil => rfl
  | cons value values ih => rw [toJsonItems, ih, List.map_cons]

mutual
/-- A value that JSON keeps: no floating number at any depth, and nothing unsigned that a signed word would hold. -/
def Exact : Value → Prop
  | .null | .bool _ | .int _ | .string _ => True
  | .uint n => 9223372036854775807 < n.toNat
  | .float _ => False
  | .array items => AllExact items
  | .object o => Json.MembersFloatFree o.members
def AllExact : List Value → Prop
  | [] => True
  | item :: items => item.Exact ∧ AllExact items
end

theorem all_exact_of_mem (items : List Value) (each : ∀ item ∈ items, item.Exact) : AllExact items := by
  induction items with
  | nil => trivial
  | cons item items ih =>
      obtain ⟨first, others⟩ := List.forall_mem_cons.mp each
      exact ⟨first, ih others⟩

mutual
theorem of_json_to_json (value : Value) (kept : value.Exact) : ofJson value.toJson = value := by
  cases value with
  | null | bool b | string s => rfl
  | int n =>
      have small : n.toInt < 9223372036854775808 := Int64.toInt_lt n
      rw [toJson, ofJson, ofNumber, ofInt, if_pos small, Int64.ofInt_toInt]
  | uint n =>
      have large : ¬ (n.toNat : Int) < 9223372036854775808 := by
        have above : 9223372036854775807 < n.toNat := kept
        omega
      rw [toJson, ofJson, ofNumber, ofInt, if_neg large, Int.toNat_natCast, UInt64.ofNat_toNat]
  | float x => exact kept.elim
  | array items => rw [toJson, ofJson, of_json_items_to_json items kept]
  | object o => rw [toJson, JsonObject.toJson, ofJson, o.of_members_members]
theorem of_json_items_to_json (items : List Value) (kept : AllExact items) :
    ofJsonItems (toJsonItems items) = items := by
  cases items with
  | nil => rfl
  | cons item items =>
      rw [toJsonItems, ofJsonItems, of_json_to_json item kept.1, of_json_items_to_json items kept.2]
end

mutual
theorem to_json_readable (value : Value) (kept : value.Exact) : value.toJson.Readable := by
  cases value with
  | null | bool b | string s => trivial
  | int n =>
      have lower := Int64.le_toInt n
      have upper := Int64.toInt_lt n
      rw [toJson, Json.Readable, Number.Fits]
      omega
  | uint n =>
      have upper := UInt64.toNat_lt n
      rw [toJson, Json.Readable, Number.Fits]
      omega
  | float x => exact kept.elim
  | array items => exact to_json_items_readable items kept
  | object o => exact Json.members_readable_of_canonical o.members o.canonical.2 kept
theorem to_json_items_readable (items : List Value) (kept : AllExact items) :
    Json.AllReadable (toJsonItems items) := by
  cases items with
  | nil => trivial
  | cons item items => exact ⟨to_json_readable item kept.1, to_json_items_readable items kept.2⟩
end

end Value

theorem Operator.of_json_sql (op : Operator) : ofJson? (.string op.sql) = some op := by
  rw [ofJson?, Json.caseName?, Option.bind_some, of_sql_sql]

theorem Logic.of_json_sql (logic : Logic) : ofJson? (.string logic.sql) = some logic := by
  rw [ofJson?, Json.caseName?, Option.bind_some, of_sql_sql]

theorem DataType.of_json_code (type : DataType) : ofJson? (.number (.int type.code)) = some type := by
  rw [ofJson?, if_pos (Int.natCast_nonneg _), Int.toNat_natCast, of_code_code]

theorem Leaf.of_members_to_json (leaf : Leaf String) (kept : leaf.value.Exact) :
    ∃ members, leaf.toJson = .object members ∧ Node.contentsOf (F := String) members = [] ∧
      Leaf.ofMembers? members = some leaf := by
  obtain ⟨field, op, value, type⟩ := leaf
  refine ⟨_, rfl, ?_, ?_⟩
  · cases type <;> simp [Node.contentsOf]
  · have value := Value.of_json_to_json value kept
    have op := op.of_json_sql
    cases type with
    | none =>
        simp [Leaf.ofMembers?, Json.member?, Leaf.ofParts?, FieldName.ofJson?, FieldName.json, Json.optional?, value,
          op]
    | some type =>
        have type := type.of_json_code
        simp [Leaf.ofMembers?, Json.member?, Leaf.ofParts?, FieldName.ofJson?, FieldName.json, Json.optional?, value,
          op, type]

namespace Node

theorem group_of_members (logic : Logic) (fieldPrefix : Option String) (nodes : List (Node String))
    (content : Json) (read : content? content = some nodes) :
    ofJson? (.object ([("logic", .string logic.sql)] ++ (match fieldPrefix with
        | none => []
        | some text => [("fieldPrefix", .string text)]) ++ [("nodes", content)])) =
      some (.group logic fieldPrefix nodes) := by
  have logic := logic.of_json_sql
  cases fieldPrefix with
  | none => simp [ofJson?, contentsOf, groupOfMembers?, groupOf?, Json.member?, Json.optional?, logic, read]
  | some text =>
      simp [ofJson?, contentsOf, groupOfMembers?, groupOf?, Json.member?, Json.optional?, Json.text?, logic, read]

mutual
theorem of_json_to_json (node : Node String) (kept : ∀ leaf ∈ node.leaves, leaf.value.Exact) :
    ofJson? node.toJson = some node := by
  cases node with
  | leaf condition =>
      obtain ⟨members, document, noContent, read⟩ :=
        condition.of_members_to_json (kept condition (List.mem_singleton.mpr rfl))
      rw [toJson, document, ofJson?, noContent, read]
      rfl
  | group logic own nodes =>
      rw [toJson.eq_def]
      exact group_of_members logic own nodes (.array (toJsonNodes nodes)) (of_items_to_json nodes kept)
theorem of_items_to_json (nodes : List (Node String)) (kept : ∀ leaf ∈ leavesOf nodes, leaf.value.Exact) :
    ofItems? (toJsonNodes nodes) = some nodes := by
  cases nodes with
  | nil => rfl
  | cons node nodes =>
      have head := of_json_to_json node fun leaf member => kept leaf (List.mem_append_left _ member)
      have tail := of_items_to_json nodes fun leaf member => kept leaf (List.mem_append_right _ member)
      rw [toJsonNodes, ofItems?, head, tail]
end

theorem leaf_readable (leaf : Leaf String) (kept : leaf.value.Exact) : leaf.toJson.Readable := by
  obtain ⟨field, op, value, type⟩ := leaf
  have value := Value.to_json_readable value kept
  cases type with
  | none => simp [Leaf.toJson, Json.Readable, Json.MembersReadable, value]
  | some type =>
      have code : (Number.int type.code).Fits := by cases type <;> exact ⟨by decide, by decide⟩
      simp [Leaf.toJson, Json.Readable, Json.MembersReadable, value, code]

mutual
theorem to_json_readable (node : Node String) (kept : ∀ leaf ∈ node.leaves, leaf.value.Exact) :
    node.toJson.Readable := by
  cases node with
  | leaf condition => exact leaf_readable condition (kept condition (List.mem_singleton.mpr rfl))
  | group logic own nodes =>
      have content := to_json_nodes_readable nodes kept
      cases own <;> simp [toJson, Json.Readable, Json.MembersReadable, content]
theorem to_json_nodes_readable (nodes : List (Node String)) (kept : ∀ leaf ∈ leavesOf nodes, leaf.value.Exact) :
    Json.AllReadable (toJsonNodes nodes) := by
  cases nodes with
  | nil => trivial
  | cons node nodes =>
      exact ⟨to_json_readable node fun leaf member => kept leaf (List.mem_append_left _ member),
        to_json_nodes_readable nodes fun leaf member => kept leaf (List.mem_append_right _ member)⟩
end

end Node

namespace Filter

def Exact (filter : Filter String) : Prop :=
  ∀ root ∈ filter.root, ∀ leaf ∈ root.leaves, leaf.value.Exact

theorem of_json_to_json (filter : Filter String) (kept : filter.Exact) : ofJson filter.toJson = .ok filter := by
  obtain ⟨root⟩ := filter
  cases root with
  | none => rfl
  | some root =>
      have read := Node.of_json_to_json root (kept root rfl)
      have noNull : root.toJson ≠ .null := by
        cases root <;> nofun
      rw [toJson, ofJson, Node.ofJson, read]
      exact noNull

theorem to_json_readable (filter : Filter String) (kept : filter.Exact) : filter.toJson.Readable := by
  obtain ⟨root⟩ := filter
  cases root with
  | none => trivial
  | some root => exact Node.to_json_readable root (kept root rfl)

theorem of_text_padded {style : Json.Style} (blank : style.Blank) (filter : Filter String) (kept : filter.Exact)
    (gap : String) (gapBlank : ∀ c ∈ gap.toList, Json.isSpace c = true) :
    ofJsonText (filter.toJson.write style 0 ++ gap) =
      if Json.textNesting (filter.toJson.write style 0 ++ gap) ≤ 127 then .ok filter
      else .error (.json .malformed) := by
  rw [ofJsonText, Json.read_as_written blank filter.toJson (filter.to_json_readable kept) gap gapBlank ofJson,
    filter.of_json_to_json kept, Json.maxNesting]
  by_cases shallow : Json.textNesting (filter.toJson.write style 0 ++ gap) ≤ 127
  · rw [if_pos shallow, if_pos shallow]
  · rw [if_neg shallow, if_neg shallow]

theorem of_text_written {style : Json.Style} (blank : style.Blank) (filter : Filter String) (kept : filter.Exact) :
    ofJsonText (filter.toJson.write style 0) =
      if Json.textNesting (filter.toJson.write style 0) ≤ 127 then .ok filter else .error (.json .malformed) := by
  have padded := of_text_padded blank filter kept "" nofun
  rwa [String.append_empty] at padded

/-- A filter is read back from either of its texts as long as no more than 127 brackets are open at once. From 128 on
the text is refused. -/
theorem json_round_trip (filter : Filter String) (kept : filter.Exact) :
    ∀ text ∈ [filter.toJsonText, filter.toPrettyText],
      (Json.textNesting text ≤ 127 → ofJsonText text = .ok filter) ∧
      (128 ≤ Json.textNesting text → ofJsonText (F := String) text = .error (.json .malformed)) := by
  have decided {style : Json.Style} (blank : style.Blank) :
      (Json.textNesting (filter.toJson.write style 0) ≤ 127 →
        ofJsonText (filter.toJson.write style 0) = .ok filter) ∧
      (128 ≤ Json.textNesting (filter.toJson.write style 0) →
        ofJsonText (F := String) (filter.toJson.write style 0) = .error (.json .malformed)) := by
    have read := of_text_written blank filter kept
    constructor
    · intro shallow
      rw [read, if_pos shallow]
    · intro deep
      rw [read, if_neg (Nat.not_le.mpr deep)]
  intro text printed
  simp only [List.mem_cons, List.not_mem_nil, or_false] at printed
  rcases printed with rfl | rfl
  · exact decided Json.Style.compact_blank
  · exact decided Json.Style.pretty_blank

def rangeOrAbsent : Filter String :=
  ⟨some (.group .or (some "a.") [
    .leaf ⟨"b\"\n", .between, .array [.int (-1), .uint 9223372036854775808], some .numeric⟩,
    .group .and none [.leaf (.of "c" .ne .null)]])⟩

def listsInLists : Nat → Value
  | 0 => .array []
  | depth + 1 => .array [listsInLists depth]

def underLists (depth : Nat) : Filter String :=
  ⟨some (.leaf (.of "a" .eq (listsInLists depth)))⟩

theorem lists_in_lists_exact (depth : Nat) : (listsInLists depth).Exact := by
  induction depth with
  | zero => trivial
  | succ depth ih => exact ⟨ih, trivial⟩

theorem under_lists_exact (depth : Nat) : (underLists depth).Exact := by
  rintro root ⟨⟩ leaf member
  rw [List.mem_singleton.mp member]
  exact lists_in_lists_exact depth

theorem lists_in_lists_nesting (depth : Nat) : (listsInLists depth).toJson.nesting = depth + 1 := by
  induction depth with
  | zero => rfl
  | succ depth ih =>
      rw [listsInLists, Value.toJson, Value.toJsonItems, Value.toJsonItems, Json.nesting, Json.itemNesting,
        Json.itemNesting, ih]
      omega

theorem under_lists_nesting (depth : Nat) : Json.textNesting (underLists depth).toJsonText = depth + 2 := by
  have written := Json.text_nesting_write Json.Style.compact_blank _
    (to_json_readable (underLists depth) (under_lists_exact depth))
  have document : (underLists depth).toJson.nesting = 1 + max 0 (max 0 (max (depth + 1) 0)) := by
    rw [← lists_in_lists_nesting depth]
    rfl
  rw [toJsonText, Json.compact, written, document]
  omega

theorem json_round_trip_to_the_limit :
    rangeOrAbsent.Exact ∧ ofJsonText rangeOrAbsent.toPrettyText = .ok rangeOrAbsent ∧
      (underLists 125).Exact ∧ ofJsonText (underLists 125).toJsonText = .ok (underLists 125) ∧
      (underLists 126).Exact ∧ ofJsonText (F := String) (underLists 126).toJsonText = .error (.json .malformed) := by
  have kept : rangeOrAbsent.Exact := by
    simp [Exact, rangeOrAbsent, Node.leaves, Node.leavesOf, Leaf.of, Value.Exact, Value.AllExact]
  have shallow : Json.textNesting rangeOrAbsent.toPrettyText ≤ 127 := by
    rw [toPrettyText, Json.pretty, Json.text_nesting_write Json.Style.pretty_blank _ (to_json_readable _ kept)]
    decide
  refine ⟨kept, ?_, under_lists_exact 125, ?_, under_lists_exact 126, ?_⟩
  · exact (json_round_trip rangeOrAbsent kept _ (by simp)).1 shallow
  · exact (json_round_trip (underLists 125) (under_lists_exact 125) _ (by simp)).1
      (Nat.le_of_eq (under_lists_nesting 125))
  · exact (json_round_trip (underLists 126) (under_lists_exact 126) _ (by simp)).2
      (Nat.le_of_eq (under_lists_nesting 126).symm)

end Filter

end SqlFilter
