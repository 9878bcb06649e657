import Mathlib.Data.List.Nodup
import SqlFilter.Proofs.Json.Recognition
import SqlFilter.Proofs.Sql.Spelling

/-!
# Fewer field names

A closed type of fields accepts fewer texts than strings do, those with names of the type only. Where it accepts a text
the filter is the same but for the names.
-/

set_option autoImplicit false

namespace SqlFilter

/-- A type of finitely many fields, which are read by the names that they are written as. None is named as a logic. -/
structure ClosedFields (F : Type) [FieldName F] (fields : List F) : Prop where
  complete (field : F) : field ∈ fields
  distinct : (fields.map FieldName.json).Nodup
  read (document : Json) : FieldName.ofJson? document =
    document.caseName?.bind fun name => fields.find? fun field => FieldName.json field == name
  noLogic (field : F) : FieldName.json field ≠ "and" ∧ FieldName.json field ≠ "or"

variable {F : Type} [FieldName F]

theorem ClosedFields.read_iff {fields : List F} (closed : ClosedFields F fields) (document : Json) (field : F) :
    FieldName.ofJson? document = some field ↔ document.caseName? = some (FieldName.json field) := by
  rw [closed.read, Option.bind_eq_some_iff]
  constructor
  · rintro ⟨name, named, found⟩
    have same : FieldName.json field = name := by simpa using List.find?_some found
    rw [same, named]
  · intro named
    refine ⟨_, named, ?_⟩
    cases found : fields.find? fun other => FieldName.json other == FieldName.json field with
    | none => exact absurd (List.find?_eq_none.mp found field (closed.complete field)) (by simp)
    | some other =>
        have same : FieldName.json other = FieldName.json field := by simpa using List.find?_some found
        exact congrArg some (List.inj_on_of_nodup_map closed.distinct (List.mem_of_find?_eq_some found)
          (closed.complete field) same)

theorem ClosedFields.no_logic {fields : List F} (closed : ClosedFields F fields) (document : Json)
    (logic : (Logic.ofJson? document).isSome = true) : FieldName.ofJson? (F := F) document = none := by
  cases read : FieldName.ofJson? (F := F) document with
  | none => rfl
  | some field =>
      have named := (closed.read_iff document field).mp read
      obtain ⟨found, same⟩ := Option.isSome_iff_exists.mp logic
      rw [Logic.ofJson?, named, Option.bind_some] at same
      have spelled : found.sql = FieldName.json field := by simpa using List.find?_some same
      cases found with
      | and => exact absurd spelled.symm (closed.noLogic field).1
      | or => exact absurd spelled.symm (closed.noLogic field).2

-- The condition with its field in place of the name, if there is such a field.
def Leaf.narrow? (leaf : Leaf String) : Option (Leaf F) :=
  (FieldName.ofJson? (.string leaf.field)).map fun field => ⟨field, leaf.op, leaf.value, leaf.dataType⟩

namespace Node

mutual
def narrow? : Node String → Option (Node F)
  | .leaf condition => condition.narrow?.map .leaf
  | .group logic own nodes => (narrowAll? nodes).map (.group logic own)
def narrowAll? : List (Node String) → Option (List (Node F))
  | [] => some []
  | node :: nodes => (narrow? node).bind fun node => (narrowAll? nodes).map (node :: ·)
end

-- The documents that lie where nodes do: a whole document, and what is listed under `nodes` or behind the logic and the
-- text of a group that is given by position.
inductive InNodePlace : Json → Json → Prop where
  | itself {document : Json} : InNodePlace document document
  | underNodes {members : List (String × Json)} {items : List Json} {item document : Json}
      (content : ("nodes", .array items) ∈ members) (child : item ∈ items) (deeper : InNodePlace item document) :
      InNodePlace (.object members) document
  | inThirdPlace {first second : Json} {items : List Json} {item document : Json}
      (logic : (Logic.ofJson? first).isSome = true) (child : item ∈ items) (deeper : InNodePlace item document) :
      InNodePlace (.array [first, second, .array items]) document

-- A name is given as a string, unless it is a logic.
def NamedByText (document : Json) : Prop :=
  ∀ name, document.caseName? = some name → document = .string name ∨ (Logic.ofSql? name).isSome = true

theorem named_by_string (name : String) : NamedByText (.string name) := by
  intro other same
  cases same
  exact .inl rfl

-- No object that has both `nodes` and a `field`, and no field that is not a string.
def Unmixed : Json → Prop
  | .object members =>
      ¬(HasNodes members ∧ "field" ∈ members.map Prod.fst) ∧ ∀ value, ("field", value) ∈ members → NamedByText value
  | .array (first :: _) => NamedByText first
  | _ => True

def AllUnmixed (document : Json) : Prop :=
  ∀ inner, InNodePlace document inner → Unmixed inner

section Read

variable {fields : List F} (closed : ClosedFields F fields)

include closed

theorem field_narrow (document : Json) (named : NamedByText document) :
    FieldName.ofJson? (F := F) document =
      (FieldName.ofJson? (F := String) document).bind fun name => FieldName.ofJson? (.string name) := by
  cases document with
  | string name => rfl
  | null | bool b | number n | array items =>
      rw [closed.read]
      rfl
  | object members =>
      have refused : FieldName.ofJson? (F := F) (.object members) = none := by
        cases name : Json.caseName? (.object members) with
        | none =>
            rw [closed.read, name]
            rfl
        | some text =>
            rcases named text name with same | logic
            · cases same
            · apply closed.no_logic
              rw [Logic.ofJson?, name]
              exact logic
      rw [refused]
      rfl

theorem parts_narrow (field op value : Json) (type : Option Json) (named : NamedByText field) :
    Leaf.ofParts? (F := F) field op value type = (Leaf.ofParts? field op value type).bind Leaf.narrow? := by
  unfold Leaf.ofParts?
  rw [field_narrow closed field named]
  cases FieldName.ofJson? (F := String) field with
  | none => rfl
  | some name =>
      cases read : FieldName.ofJson? (F := F) (.string name) <;> cases Operator.ofJson? op <;>
        cases Json.optional? DataType.ofJson? type <;> simp [Leaf.narrow?, read]

theorem members_narrow (members : List (String × Json))
    (named : ∀ value, ("field", value) ∈ members → NamedByText value) :
    Leaf.ofMembers? (F := F) members = (Leaf.ofMembers? members).bind Leaf.narrow? := by
  unfold Leaf.ofMembers?
  cases field : Json.member? "field" members with
  | none => rfl
  | some found =>
      cases found with
      | none => rfl
      | some value =>
          have text := named value (Json.member_found field)
          simp only [Option.bind_eq_bind, Option.bind_some, Option.bind_assoc, parts_narrow closed value _ _ _ text]

theorem leaf_items_narrow (items : List Json) (named : ∀ first ∈ items.head?, NamedByText first) :
    Leaf.ofItems? (F := F) items = (Leaf.ofItems? items).bind Leaf.narrow? := by
  unfold Leaf.ofItems?
  split
  · exact parts_narrow closed _ _ _ _ (named _ rfl)
  · exact parts_narrow closed _ _ _ _ (named _ rfl)
  · rfl

end Read

theorem group_narrow (logic : Json) (own : Option Json) (nodes : Option (List (Node String))) :
    groupOf? (F := F) logic own (nodes.bind narrowAll?) = (groupOf? logic own nodes).bind narrow? := by
  unfold groupOf?
  cases Logic.ofJson? logic <;> cases Json.optional? Json.text? own <;> cases nodes <;>
    simp [narrow?, Option.map_eq_bind, Function.comp_def]

theorem group_members_narrow (members : List (String × Json)) (contents : List (Option (List (Node String)))) :
    groupOfMembers? (F := F) members (contents.map fun nodes => nodes.bind narrowAll?) =
      (groupOfMembers? members contents).bind narrow? := by
  rcases contents with _ | ⟨nodes, _ | ⟨second, others⟩⟩
  · rfl
  · simp only [groupOfMembers?, List.map_cons, List.map_nil, Option.bind_eq_bind, Option.bind_assoc, group_narrow]
  · rfl

theorem or_narrow (group condition : Option (Node String))
    (apart : group.isSome = true → condition.bind (narrow? (F := F)) = none) :
    (group.bind narrow? <|> condition.bind narrow?) = (group <|> condition).bind (narrow? (F := F)) := by
  cases group with
  | none => rfl
  | some node =>
      rw [apart rfl]
      simp

theorem condition_narrow (condition : Option (Leaf String)) :
    (condition.bind Leaf.narrow?).map .leaf = (condition.map .leaf).bind (narrow? (F := F)) := by
  cases condition <;> rfl

theorem object_narrow {fields : List F} (closed : ClosedFields F fields) (members : List (String × Json))
    (unmixed : Unmixed (.object members))
    (contents : contentsOf (F := F) members = (contentsOf members).map fun nodes => nodes.bind narrowAll?) :
    ofJson? (F := F) (.object members) = (ofJson? (.object members)).bind narrow? := by
  obtain ⟨apart, named⟩ := unmixed
  rw [ofJson?, ofJson?, contents, group_members_narrow, members_narrow closed members named, condition_narrow]
  apply or_narrow
  intro group
  obtain ⟨node, read⟩ := Option.isSome_iff_exists.mp group
  obtain ⟨_, _, _, _, items, _, _, _, _, _, found, _⟩ := group_of_members_some read
  have noField : "field" ∉ members.map Prod.fst := fun field =>
    apart ⟨List.mem_map_of_mem (Json.member_found found), field⟩
  cases condition : Leaf.ofMembers? (F := String) members with
  | none => rfl
  | some leaf =>
      simp only [Leaf.ofMembers?, Option.bind_eq_bind, Option.bind_eq_some_iff] at condition
      obtain ⟨_, field, _, rfl, _⟩ := condition
      exact absurd (List.mem_map_of_mem (Json.member_found field)) noField

theorem array_narrow {fields : List F} (closed : ClosedFields F fields) (items : List Json)
    (unmixed : Unmixed (.array items))
    (content : ∀ first second third, items = [first, second, third] → (Logic.ofJson? first).isSome = true →
      content? (F := F) third = (content? third).bind narrowAll?) :
    ofJson? (F := F) (.array items) = (ofJson? (.array items)).bind narrow? := by
  have named : ∀ first ∈ items.head?, NamedByText first := by
    cases items with
    | nil => nofun
    | cons first others =>
        rintro _ ⟨⟩
        exact unmixed
  by_cases three : ∃ first second third, items = [first, second, third]
  · obtain ⟨first, second, third, rfl⟩ := three
    have group : groupOf? (F := F) first (some second) (content? third) =
        (groupOf? first (some second) (content? third)).bind narrow? := by
      cases logic : Logic.ofJson? first with
      | none => simp only [groupOf?, logic]; rfl
      | some found => rw [content first second third rfl (by rw [logic]; rfl), group_narrow]
    rw [ofJson?, ofJson?, group, leaf_items_narrow closed _ named, condition_narrow]
    apply or_narrow
    intro read
    obtain ⟨node, read⟩ := Option.isSome_iff_exists.mp read
    obtain ⟨logic, _, _, logicRead, _⟩ := group_of_some read
    have noField := closed.no_logic first (by rw [logicRead]; rfl)
    rw [← condition_narrow, ← leaf_items_narrow closed _ named, Leaf.ofItems?, Leaf.ofParts?, noField]
    rfl
  · rw [ofJson?, ofJson?, leaf_items_narrow closed _ named, condition_narrow]
    all_goals
      intro first second third same
      exact three ⟨first, second, third, same⟩

mutual
theorem read_narrow {fields : List F} (closed : ClosedFields F fields) (document : Json)
    (unmixed : AllUnmixed document) : ofJson? (F := F) document = (ofJson? document).bind narrow? := by
  cases document with
  | null | bool b | number n | string s => rfl
  | object members =>
      apply object_narrow closed members (unmixed _ .itself)
      apply contents_narrow closed members
      intro items content item child inner place
      exact unmixed inner (.underNodes content child place)
  | array items =>
      apply array_narrow closed items (unmixed _ .itself)
      rintro first second third rfl logic
      apply content_narrow closed third
      rintro items rfl item child inner place
      exact unmixed inner (.inThirdPlace logic child place)
theorem content_narrow {fields : List F} (closed : ClosedFields F fields) (document : Json)
    (unmixed : ∀ items, document = .array items → ∀ item ∈ items, AllUnmixed item) :
    content? (F := F) document = (content? document).bind narrowAll? := by
  cases document with
  | null | bool b | number n | string s | object members => rfl
  | array items => exact all_narrow closed items (unmixed items rfl)
theorem all_narrow {fields : List F} (closed : ClosedFields F fields) (items : List Json)
    (unmixed : ∀ item ∈ items, AllUnmixed item) : ofItems? (F := F) items = (ofItems? items).bind narrowAll? := by
  cases items with
  | nil => rfl
  | cons item items =>
      rw [List.forall_mem_cons] at unmixed
      rw [ofItems?, ofItems?, read_narrow closed item unmixed.1, all_narrow closed items unmixed.2]
      cases ofJson? (F := String) item with
      | none => rfl
      | some node =>
          cases ofItems? (F := String) items with
          | none =>
              rw [Option.bind_some]
              cases node.narrow? (F := F) <;> rfl
          | some nodes =>
              rw [Option.bind_some, Option.bind_some, Option.bind_some, narrowAll?]
              cases node.narrow? (F := F) <;> cases narrowAll? (F := F) nodes <;> rfl
theorem contents_narrow {fields : List F} (closed : ClosedFields F fields) (members : List (String × Json))
    (unmixed : ∀ items, ("nodes", .array items) ∈ members → ∀ item ∈ items, AllUnmixed item) :
    contentsOf (F := F) members = (contentsOf members).map fun nodes => nodes.bind narrowAll? :=
  match members with
  | [] => rfl
  | (key, value) :: members => by
      have others := contents_narrow closed members fun items content => unmixed items (List.mem_cons_of_mem _ content)
      rw [contentsOf, contentsOf, others]
      by_cases nodes : key = "nodes"
      · rw [if_pos nodes, if_pos nodes, List.map_cons, content_narrow closed value]
        rintro items rfl
        exact unmixed items (nodes ▸ List.mem_cons_self)
      · rw [if_neg nodes, if_neg nodes]
end

theorem leaf_narrow_iff {fields : List F} (closed : ClosedFields F fields) (leaf : Leaf String) (narrow : Leaf F) :
    leaf.narrow? = some narrow ↔ narrow.spelled = leaf := by
  obtain ⟨name, op, value, type⟩ := leaf
  obtain ⟨field, narrowOp, narrowValue, narrowType⟩ := narrow
  simp only [Leaf.narrow?, Option.map_eq_some_iff, closed.read_iff, Json.caseName?, Leaf.spelled, Leaf.mk.injEq,
    Option.some.injEq]
  constructor
  · rintro ⟨_, rfl, rfl, rest⟩
    exact ⟨rfl, rest.1.symm, rest.2.1.symm, rest.2.2.symm⟩
  · rintro ⟨rfl, rfl, rfl, rfl⟩
    exact ⟨field, rfl, rfl, rfl, rfl, rfl⟩

mutual
theorem narrow_iff {fields : List F} (closed : ClosedFields F fields) (tree : Node String) (node : Node F) :
    tree.narrow? = some node ↔ node.spelled = tree := by
  cases tree with
  | leaf leaf =>
      rw [narrow?, Option.map_eq_some_iff]
      simp only [leaf_narrow_iff closed]
      cases node <;> simp [spelled]
  | group logic own nodes =>
      rw [narrow?, Option.map_eq_some_iff]
      simp only [narrow_all_iff closed nodes]
      cases node <;> simp [spelled, eq_comm, and_left_comm]
theorem narrow_all_iff {fields : List F} (closed : ClosedFields F fields) (trees : List (Node String))
    (nodes : List (Node F)) : narrowAll? trees = some nodes ↔ spelledAll nodes = trees := by
  cases trees with
  | nil => cases nodes <;> simp [narrowAll?, spelledAll]
  | cons tree trees =>
      simp only [narrowAll?, Option.bind_eq_some_iff, Option.map_eq_some_iff, narrow_iff closed tree,
        narrow_all_iff closed trees]
      cases nodes <;> simp [spelledAll]
end

mutual
theorem narrow_exists_iff {fields : List F} (closed : ClosedFields F fields) (tree : Node String) :
    (∃ node, tree.narrow? (F := F) = some node) ↔
      ∀ leaf ∈ tree.leaves, ∃ field : F, FieldName.json field = leaf.field := by
  cases tree with
  | leaf leaf =>
      rw [narrow?, leaves, List.forall_mem_singleton]
      constructor
      · rintro ⟨node, read⟩
        obtain ⟨narrow, found, _⟩ := Option.map_eq_some_iff.mp read
        exact ⟨narrow.field, congrArg Leaf.field ((leaf_narrow_iff closed leaf narrow).mp found)⟩
      · rintro ⟨field, named⟩
        refine ⟨.leaf ⟨field, leaf.op, leaf.value, leaf.dataType⟩, Option.map_eq_some_iff.mpr ⟨_, ?_, rfl⟩⟩
        rw [leaf_narrow_iff closed, Leaf.spelled, named]
  | group logic own nodes =>
      rw [leaves, ← narrow_all_exists_iff closed nodes, narrow?]
      simp only [Option.map_eq_some_iff, exists_comm (α := Node F), exists_and_left, exists_eq', and_true]
theorem narrow_all_exists_iff {fields : List F} (closed : ClosedFields F fields) (trees : List (Node String)) :
    (∃ nodes, narrowAll? (F := F) trees = some nodes) ↔
      ∀ leaf ∈ leavesOf trees, ∃ field : F, FieldName.json field = leaf.field := by
  cases trees with
  | nil => simp [narrowAll?, leavesOf]
  | cons tree trees =>
      rw [leavesOf, List.forall_mem_append, ← narrow_exists_iff closed tree, ← narrow_all_exists_iff closed trees,
        narrowAll?]
      constructor
      · rintro ⟨nodes, read⟩
        obtain ⟨node, first, rest⟩ := Option.bind_eq_some_iff.mp read
        obtain ⟨others, read, _⟩ := Option.map_eq_some_iff.mp rest
        exact ⟨⟨node, first⟩, others, read⟩
      · rintro ⟨⟨node, first⟩, others, read⟩
        exact ⟨node :: others, by rw [first, read]; rfl⟩
end

end Node

namespace Filter

theorem of_json_ok_iff {document : Json} (present : document ≠ .null) (filter : Filter F) :
    ofJson document = .ok filter ↔ ∃ node, Node.ofJson? document = some node ∧ filter = ⟨some node⟩ := by
  rw [ofJson, Node.ofJson]
  · cases Node.ofJson? (F := F) document with
    | none => simp
    | some node => simp [eq_comm]
  · exact present

theorem of_json_narrow_iff {fields : List F} (closed : ClosedFields F fields) {document : Json}
    (unmixed : Node.AllUnmixed document) (narrow : Filter F) :
    ofJson document = .ok narrow ↔ ofJson (F := String) document = .ok narrow.spelled := by
  obtain ⟨root⟩ := narrow
  by_cases present : document = .null
  · subst present
    cases root <;> simp [ofJson, empty, spelled]
  · rw [of_json_ok_iff present, of_json_ok_iff present, Node.read_narrow closed document unmixed]
    simp only [Option.bind_eq_some_iff, Node.narrow_iff closed, spelled, mk.injEq]
    cases root with
    | none => simp
    | some node =>
        constructor
        · rintro ⟨_, ⟨tree, read, rfl⟩, same⟩
          cases same
          exact ⟨_, read, rfl⟩
        · rintro ⟨tree, read, same⟩
          exact ⟨node, ⟨tree, read, Option.some.inj same⟩, rfl⟩

/-- The names in a filter are all names of fields. -/
def FieldsOf (F : Type) [FieldName F] (wide : Filter String) : Prop :=
  ∀ root ∈ wide.root, ∀ leaf ∈ root.leaves, ∃ field : F, FieldName.json field = leaf.field

theorem fields_of_iff {fields : List F} (closed : ClosedFields F fields) (wide : Filter String) :
    FieldsOf F wide ↔ ∃ narrow : Filter F, narrow.spelled = wide := by
  obtain ⟨root⟩ := wide
  cases root with
  | none => exact ⟨fun _ => ⟨empty, rfl⟩, fun _ => nofun⟩
  | some tree =>
      have inTree : FieldsOf F ⟨some tree⟩ ↔ ∀ leaf ∈ tree.leaves, ∃ field : F, FieldName.json field = leaf.field := by
        simp [FieldsOf]
      rw [inTree, ← Node.narrow_exists_iff closed tree]
      simp only [Node.narrow_iff closed]
      constructor
      · rintro ⟨node, rfl⟩
        exact ⟨⟨some node⟩, rfl⟩
      · rintro ⟨⟨root⟩, same⟩
        cases root with
        | none => cases same
        | some node => exact ⟨node, Option.some.inj (Filter.mk.inj same)⟩

theorem text_narrow_iff {fields : List F} (closed : ClosedFields F fields) {text : String}
    (unmixed : ∀ document, Json.read text = .ok document → Node.AllUnmixed document) (narrow : Filter F) :
    ofJsonText text = .ok narrow ↔ ofJsonText (F := String) text = .ok narrow.spelled := by
  cases accepted : Json.read text with
  | error e =>
      have refused {G : Type} [FieldName G] (filter : Filter G) : ofJsonText text ≠ .ok filter := by
        intro read
        obtain ⟨document, found, _⟩ := of_text_read read
        cases accepted.symm.trans found
      exact iff_of_false (refused narrow) (refused narrow.spelled)
  | ok document =>
      have through {G : Type} [FieldName G] (filter : Filter G) :
          ofJsonText text = .ok filter ↔ ofJson document = .ok filter := by
        rw [of_text_of_read accepted]
        cases ofJson (F := G) document <;> simp [Except.mapError]
      rw [through, through, of_json_narrow_iff closed (unmixed document accepted)]

/-- Fields of a closed type are accepted in fewer texts, and where they are they stand for the same filter. -/
theorem narrowing_only_restricts {fields : List F} (closed : ClosedFields F fields) (text : String)
    (unmixed : ∀ document, Json.read text = .ok document → Node.AllUnmixed document) :
    ((∃ narrow : Filter F, ofJsonText text = .ok narrow) ↔
        ∃ wide : Filter String, ofJsonText text = .ok wide ∧ FieldsOf F wide) ∧
      ∀ (narrow : Filter F) (wide : Filter String), ofJsonText text = .ok narrow → ofJsonText text = .ok wide →
        wide = narrow.spelled ∧ narrow.toJsonText = wide.toJsonText ∧ narrow.toPrettyText = wide.toPrettyText ∧
        ((∀ field : F, FieldName.sql field = FieldName.json field) → ∀ options : Sql.RenderOptions String,
          narrow.render (options.unspelled F) = wide.render options ∧
          narrow.renderInline (options.unspelled F) = wide.renderInline options ∧
          narrow.renderParameterized (options.unspelled F) = wide.renderParameterized options) := by
  refine ⟨?_, ?_⟩
  · simp only [text_narrow_iff closed unmixed, fields_of_iff closed]
    constructor
    · rintro ⟨narrow, read⟩
      exact ⟨narrow.spelled, read, narrow, rfl⟩
    · rintro ⟨_, read, narrow, rfl⟩
      exact ⟨narrow, read⟩
  · intro narrow wide narrowRead wideRead
    have same := (text_narrow_iff closed unmixed narrow).mp narrowRead
    rw [wideRead, Except.ok.injEq] at same
    subst same
    refine ⟨rfl, ?_, ?_, fun alike options => ?_⟩
    · rw [toJsonText, toJsonText, spelled_to_json]
    · rw [toPrettyText, toPrettyText, spelled_to_json]
    · exact ⟨(render_spelled alike narrow options).symm, (inline_spelled alike narrow options).symm,
        (parameterized_spelled alike narrow options).symm⟩

end Filter

inductive Column
  | id
  | dateDeleted
deriving DecidableEq

namespace Column

def name : Column → String
  | .id => "id"
  | .dateDeleted => "date_deleted"

instance : FieldName Column where
  sql := name
  json := name
  ofJson? document := document.caseName?.bind fun name => [id, dateDeleted].find? fun column => column.name == name

theorem closed : ClosedFields Column [id, dateDeleted] where
  complete column := by cases column <;> decide
  distinct := by decide
  read _ := rfl
  noLogic column := by cases column <;> decide

end Column

namespace Filter

-- A group that is given by position, and in it an array of three that could be a group or a condition.
def columnText : String :=
  "[\"or\", \"u.\", [[\"id\", \"!=\", 7], " ++
    "[\"and\", \"=\", [\x7b\"field\": \"date_deleted\", \"op\": \"=\", \"val\": null\x7d]]]]"

def columnDocument : Json :=
  .array [.string "or", .string "u.", .array [.array [.string "id", .string "!=", .number (.int 7)],
    .array [.string "and", .string "=",
      .array [.object [("field", .string "date_deleted"), ("op", .string "="), ("val", .null)]]]]]

theorem column_document_unmixed : Node.AllUnmixed columnDocument := by
  intro inner place
  cases place with
  | itself => exact Node.named_by_string _
  | inThirdPlace _ child deeper =>
      rcases List.mem_cons.mp child with rfl | later
      · cases deeper
        exact Node.named_by_string _
      · obtain rfl := List.mem_singleton.mp later
        cases deeper with
        | itself => exact Node.named_by_string _
        | inThirdPlace _ child deeper =>
            obtain rfl := List.mem_singleton.mp child
            cases deeper with
            | itself => exact ⟨by simp [Node.HasNodes], by simp [Node.named_by_string]⟩
            | underNodes content _ _ => simp at content

theorem columns_accepted_unlike_others :
    (∃ narrow : Filter Column, ofJsonText columnText = .ok narrow ∧
      narrow.renderInline { transformer := some Sql.quoteIdentifiers } =
        .ok (some "(\"u\".\"id\" != 7 or (\"=date_deleted\" is null))")) ∧
      (∃ wide : Filter String, ofJsonText "[\"ID\", \"=\", 1]" = .ok wide) ∧
      ¬∃ narrow : Filter Column, ofJsonText "[\"ID\", \"=\", 1]" = .ok narrow := by
  have read : Json.read columnText = .ok columnDocument := by decide +kernel
  have otherRead : Json.read "[\"ID\", \"=\", 1]" = .ok (.array [.string "ID", .string "=", .number (.int 1)]) := by
    decide +kernel
  have wide : ofJsonText (F := String) columnText = .ok
      ⟨some (.group .or (some "u.") [.leaf (.of "id" .ne (.int 7)),
        .group .and (some "=") [.leaf (.of "date_deleted" .eq .null)]])⟩ :=
    of_text_of_read read
  have other : ofJsonText (F := String) "[\"ID\", \"=\", 1]" = .ok ⟨some (.leaf (.of "ID" .eq (.int 1)))⟩ :=
    of_text_of_read otherRead
  have unmixed : ∀ document, Json.read columnText = .ok document → Node.AllUnmixed document := by
    intro document found
    cases read.symm.trans found
    exact column_document_unmixed
  have otherUnmixed : ∀ document, Json.read "[\"ID\", \"=\", 1]" = .ok document → Node.AllUnmixed document := by
    intro document found
    cases otherRead.symm.trans found
    rintro inner ⟨⟩
    exact Node.named_by_string _
  refine ⟨?_, ⟨_, other⟩, ?_⟩
  · obtain ⟨accepted, agree⟩ := narrowing_only_restricts Column.closed columnText unmixed
    have names : FieldsOf Column ⟨some (.group .or (some "u.") [.leaf (.of "id" .ne (.int 7)),
        .group .and (some "=") [.leaf (.of "date_deleted" .eq .null)]])⟩ :=
      (fields_of_iff Column.closed _).mpr ⟨⟨some (.group .or (some "u.") [.leaf (.of .id .ne (.int 7)),
        .group .and (some "=") [.leaf (.of .dateDeleted .eq .null)]])⟩, rfl⟩
    obtain ⟨narrow, narrowRead⟩ := accepted.mpr ⟨_, wide, names⟩
    obtain ⟨_, _, _, rendered⟩ := agree narrow _ narrowRead wide
    obtain ⟨_, inline, _⟩ := rendered (fun _ => rfl) { transformer := some Sql.quoteIdentifiers }
    refine ⟨narrow, narrowRead, ?_⟩
    rw [Sql.unspelled_quoting (fun _ => rfl) {}] at inline
    exact inline.trans rfl
  · rw [(narrowing_only_restricts Column.closed _ otherUnmixed).1]
    rintro ⟨found, foundRead, names⟩
    cases other.symm.trans foundRead
    obtain ⟨column, named⟩ := names _ rfl _ List.mem_cons_self
    cases column <;> exact absurd named (by decide)

end Filter

end SqlFilter
