import Mathlib.Control.Monad.Basic
import SqlFilter.Proofs.Json.Decoding
import SqlFilter.Proofs.Json.Phrase

/-!
# Rearranged texts

The order of members, members with unknown names and white space make no difference to what a text is read as.
-/

set_option autoImplicit false

namespace SqlFilter

theorem perm_few {α : Type} {xs ys : List α} (arranged : xs.Perm ys) :
    xs = ys ∨ ∃ a b more c d others, xs = a :: b :: more ∧ ys = c :: d :: others := by
  match xs, ys with
  | [], _ => exact .inl (List.nil_perm.mp arranged).symm
  | [_], _ => exact .inl (List.singleton_perm.mp arranged)
  | _ :: _ :: _, [] | _ :: _ :: _, [_] => exact absurd arranged.length_eq (by simp)
  | a :: b :: more, c :: d :: others => exact .inr ⟨a, b, more, c, d, others, rfl, rfl⟩

namespace Json

def knownKeys : List String :=
  ["logic", "fieldPrefix", "nodes", "field", "op", "val", "dataType"]

theorem member_perm {key : String} {members others : List (String × Json)}
    (arranged : (members.filter (·.1 == key)).Perm (others.filter (·.1 == key))) :
    member? key members = member? key others := by
  rw [member?, member?]
  obtain same | ⟨_, _, _, _, _, _, several, otherSeveral⟩ := perm_few arranged
  · rw [same]
  · rw [several, otherSeveral]

end Json

variable {F : Type} [FieldName F]

theorem Leaf.of_parts_other_value (field op value other : Json) (type : Option Json) :
    ofParts? (F := F) field op other type =
      (ofParts? field op value type).map fun leaf => { leaf with value := .ofJson other } := by
  unfold ofParts?
  cases FieldName.ofJson? (F := F) field with
  | none => rfl
  | some field =>
      cases Operator.ofJson? op with
      | none => rfl
      | some op => cases Json.optional? DataType.ofJson? type <;> rfl

namespace Node

-- Two lists of members that no node is told apart by: those for a key that is asked for are the same in some order, and
-- what is listed under `nodes` stands for the same.
structure Matching (F : Type) [FieldName F] (members others : List (String × Json)) : Prop where
  asked : ∀ key ∈ Json.knownKeys, key ≠ "nodes" →
    (members.filter (·.1 == key)).Perm (others.filter (·.1 == key))
  contents : (contentsOf (F := F) members).Perm (contentsOf others)

theorem Matching.symm {members others : List (String × Json)} (same : Matching F members others) :
    Matching F others members :=
  ⟨fun key known notNodes => (same.asked key known notNodes).symm, same.contents.symm⟩

theorem Matching.trans {members others more : List (String × Json)} (first : Matching F members others)
    (second : Matching F others more) : Matching F members more :=
  ⟨fun key known notNodes => (first.asked key known notNodes).trans (second.asked key known notNodes),
    first.contents.trans second.contents⟩

theorem Matching.cons {members others : List (String × Json)} (more : Matching F members others) (key : String)
    {value other : Json} (plain : key ≠ "nodes" → value = other)
    (content : content? (F := F) value = content? other) :
    Matching F ((key, value) :: members) ((key, other) :: others) := by
  constructor
  · intro asked known notNodes
    rw [List.filter_cons, List.filter_cons]
    dsimp only
    split
    · rename_i same
      obtain rfl := beq_iff_eq.mp same
      rw [plain notNodes]
      exact (more.asked key known notNodes).cons _
    · exact more.asked asked known notNodes
  · rw [contentsOf, contentsOf]
    split
    · rw [content]
      exact more.contents.cons _
    · exact more.contents

theorem matching_perm {members others : List (String × Json)} (arranged : members.Perm others) :
    Matching F members others := by
  refine ⟨fun key _ _ => arranged.filter _, ?_⟩
  rw [contents_of_eq, contents_of_eq]
  exact (arranged.filter _).map _

theorem matching_noise {members noise : List (String × Json)}
    (unknown : ∀ member ∈ noise, member.1 ∉ Json.knownKeys) : Matching F (members ++ noise) members := by
  have absent (key : String) (known : key ∈ Json.knownKeys) :
      (members ++ noise).filter (·.1 == key) = members.filter (·.1 == key) := by
    have none : noise.filter (·.1 == key) = [] := List.filter_eq_nil_iff.mpr fun member listed same =>
      unknown member listed (beq_iff_eq.mp same ▸ known)
    rw [List.filter_append, none, List.append_nil]
  constructor
  · intro key known _
    rw [absent key known]
  · rw [contents_of_eq, contents_of_eq, absent "nodes" (by decide)]

theorem group_matching {members others : List (String × Json)} (same : Matching F members others) :
    groupOfMembers? (F := F) members (contentsOf members) = groupOfMembers? others (contentsOf others) := by
  unfold groupOfMembers?
  rw [Json.member_perm (same.asked "logic" (by decide) (by decide)),
    Json.member_perm (same.asked "fieldPrefix" (by decide) (by decide))]
  obtain contents | ⟨_, _, _, _, _, _, several, otherSeveral⟩ := perm_few same.contents
  · rw [contents]
  · rw [several, otherSeveral]

theorem object_matching {members others : List (String × Json)} (same : Matching F members others) :
    ofJson? (F := F) (.object members) = ofJson? (.object others) := by
  have condition : Leaf.ofMembers? (F := F) members = Leaf.ofMembers? others := by
    rw [Leaf.ofMembers?, Leaf.ofMembers?, Json.member_perm (same.asked "field" (by decide) (by decide)),
      Json.member_perm (same.asked "op" (by decide) (by decide)),
      Json.member_perm (same.asked "val" (by decide) (by decide)),
      Json.member_perm (same.asked "dataType" (by decide) (by decide))]
  rw [ofJson?, ofJson?, group_matching same, condition]

theorem array_matching {first second : Json} {items others : List Json}
    (noCondition : ∀ leaf, ofJson? (F := F) (.array [first, second, .array items]) ≠ some (.leaf leaf))
    (same : ofItems? (F := F) items = ofItems? others) :
    ofJson? (F := F) (.array [first, second, .array items]) = ofJson? (.array [first, second, .array others]) := by
  rw [ofJson?, content?] at noCondition
  rw [ofJson?, ofJson?, content?, content?, ← same]
  cases group : groupOf? first (some second) (ofItems? (F := F) items) with
  | some node => rfl
  | none =>
      rw [group] at noCondition
      have failed : Leaf.ofItems? (F := F) [first, second, .array items] = none := by
        cases condition : Leaf.ofItems? (F := F) [first, second, .array items] with
        | none => rfl
        | some leaf =>
            rw [condition] at noCondition
            exact absurd rfl (noCondition leaf)
      have otherFailed : Leaf.ofItems? (F := F) [first, second, .array others] = none := by
        rw [Leaf.ofItems?] at failed ⊢
        rw [Leaf.of_parts_other_value first second (.array items), failed]
        rfl
      rw [failed, otherFailed]

end Node

namespace Phrase

theorem member_documents_eq (members : List (Option String × Phrase)) :
    memberDocuments members = members.map fun member => (member.1.getD "", member.2.document) := by
  induction members with
  | nil => rfl
  | cons member members ih =>
      obtain ⟨key, value⟩ := member
      rw [memberDocuments, ih, List.map_cons]

-- A member that no part of a node is read from.
structure Noise (member : Option String × Phrase) : Prop where
  unknown : ∃ key ∉ Json.knownKeys, member.1 = some key
  wellFormed : member.2.WellFormed

mutual
/-- Two phrases that differ, in the objects in node position, in the order of the members and in noise alone. What is
listed under `nodes` is in node position, and so is what is listed in the third place of an array, unless that array
is a condition. -/
inductive Alike (F : Type) [FieldName F] : Phrase → Phrase → Prop where
  | same (phrase : Phrase) : Alike F phrase phrase
  | object {members others kept otherKept noise otherNoise : List (Option String × Phrase)}
      (arranged : members.Perm (kept ++ noise)) (otherArranged : others.Perm (otherKept ++ otherNoise))
      (unknown : ∀ member ∈ noise, Noise member) (otherUnknown : ∀ member ∈ otherNoise, Noise member)
      (inside : MembersAlike F kept otherKept) : Alike F (.object members) (.object others)
  | array {first second : Phrase} {items others : List Phrase}
      (noCondition : ∀ leaf, Node.ofJson? (F := F) (array [first, second, .array items]).document ≠ some (.leaf leaf))
      (inside : ItemsAlike F items others) :
      Alike F (.array [first, second, .array items]) (.array [first, second, .array others])
inductive MembersAlike (F : Type) [FieldName F] :
    List (Option String × Phrase) → List (Option String × Phrase) → Prop where
  | nil : MembersAlike F [] []
  | same (member : Option String × Phrase) {members others : List (Option String × Phrase)}
      (more : MembersAlike F members others) : MembersAlike F (member :: members) (member :: others)
  | nodes {items otherItems : List Phrase} {members others : List (Option String × Phrase)}
      (inside : ItemsAlike F items otherItems) (more : MembersAlike F members others) :
      MembersAlike F ((some "nodes", .array items) :: members) ((some "nodes", .array otherItems) :: others)
inductive ItemsAlike (F : Type) [FieldName F] : List Phrase → List Phrase → Prop where
  | nil : ItemsAlike F [] []
  | cons {item other : Phrase} {items others : List Phrase} (first : Alike F item other)
      (more : ItemsAlike F items others) : ItemsAlike F (item :: items) (other :: others)
end

section Noise

variable {members kept noise : List (Option String × Phrase)} (arranged : members.Perm (kept ++ noise))
  (unknown : ∀ member ∈ noise, Noise member)

include arranged unknown

theorem kept_well_formed : (object members).WellFormed ↔ (object kept).WellFormed := by
  have noiseWellFormed : ∀ member ∈ noise, member.1.isSome = true ∧ member.2.WellFormed := by
    intro member listed
    obtain ⟨⟨key, _, keyed⟩, wellFormed⟩ := unknown member listed
    exact ⟨by rw [keyed]; rfl, wellFormed⟩
  rw [well_formed_object, well_formed_object]
  constructor
  · exact fun all member listed => all member (arranged.mem_iff.mpr (List.mem_append_left _ listed))
  · intro all member listed
    rcases List.mem_append.mp (arranged.mem_iff.mp listed) with keep | extra
    · exact all member keep
    · exact noiseWellFormed member extra

theorem kept_matching : Node.Matching F (memberDocuments members) (memberDocuments kept) := by
  have split : (memberDocuments members).Perm (memberDocuments kept ++ memberDocuments noise) := by
    rw [member_documents_eq, member_documents_eq, member_documents_eq, ← List.map_append]
    exact arranged.map _
  refine (Node.matching_perm split).trans (Node.matching_noise ?_)
  intro member listed
  rw [member_documents_eq] at listed
  obtain ⟨source, extra, rfl⟩ := List.mem_map.mp listed
  obtain ⟨⟨key, notKnown, keyed⟩, _⟩ := unknown source extra
  rw [keyed]
  exact notKnown

end Noise

mutual
theorem alike_well_formed {phrase other : Phrase} (alike : Alike F phrase other) :
    phrase.WellFormed ↔ other.WellFormed :=
  match alike with
  | .same _ => Iff.rfl
  | .object arranged otherArranged unknown otherUnknown inside => by
      rw [kept_well_formed arranged unknown, kept_well_formed otherArranged otherUnknown,
        members_alike_well_formed inside]
  | .array _ inside => by
      have items := items_alike_well_formed inside
      simp only [well_formed_array, List.forall_mem_cons, items]
theorem members_alike_well_formed {members others : List (Option String × Phrase)}
    (alike : MembersAlike F members others) : (object members).WellFormed ↔ (object others).WellFormed :=
  match alike with
  | .nil => Iff.rfl
  | .same member more => by
      have rest := members_alike_well_formed more
      rw [well_formed_object, well_formed_object] at rest ⊢
      rw [List.forall_mem_cons, List.forall_mem_cons, rest]
  | .nodes inside more => by
      have items := items_alike_well_formed inside
      have rest := members_alike_well_formed more
      rw [well_formed_object, well_formed_object] at rest ⊢
      rw [List.forall_mem_cons, List.forall_mem_cons, rest, well_formed_array, well_formed_array, items]
theorem items_alike_well_formed {items others : List Phrase} (alike : ItemsAlike F items others) :
    (∀ item ∈ items, item.WellFormed) ↔ ∀ item ∈ others, item.WellFormed :=
  match alike with
  | .nil => Iff.rfl
  | .cons first more => by
      rw [List.forall_mem_cons, List.forall_mem_cons, alike_well_formed first, items_alike_well_formed more]
end

mutual
theorem alike_read {phrase other : Phrase} (alike : Alike F phrase other) :
    Node.ofJson? (F := F) phrase.document = Node.ofJson? other.document :=
  match alike with
  | .same _ => rfl
  | .object arranged otherArranged unknown otherUnknown inside => by
      have split := kept_matching (F := F) arranged unknown
      have otherSplit := kept_matching (F := F) otherArranged otherUnknown
      exact Node.object_matching ((split.trans (members_alike_matching inside)).trans otherSplit.symm)
  | .array noCondition inside => Node.array_matching noCondition (items_alike_read inside)
theorem members_alike_matching {members others : List (Option String × Phrase)}
    (alike : MembersAlike F members others) :
    Node.Matching F (memberDocuments members) (memberDocuments others) :=
  match alike with
  | .nil => Node.matching_perm (.refl _)
  | .same _ more => (members_alike_matching more).cons _ (fun _ => rfl) rfl
  | .nodes inside more => (members_alike_matching more).cons "nodes" (absurd rfl) (items_alike_read inside)
theorem items_alike_read {items others : List Phrase} (alike : ItemsAlike F items others) :
    Node.ofItems? (F := F) (documents items) = Node.ofItems? (documents others) :=
  match alike with
  | .nil => rfl
  | .cons first more => by
      rw [documents, documents, Node.ofItems?, Node.ofItems?, alike_read first, items_alike_read more]
end

end Phrase

namespace Filter

theorem alike_of_json {phrase other : Phrase} (alike : Phrase.Alike F phrase other) :
    ofJson (F := F) phrase.document = ofJson other.document := by
  have read := Phrase.alike_read alike
  cases alike with
  | same => rfl
  | object | array =>
      rw [ofJson, ofJson, Node.ofJson, Node.ofJson, read]
      · nofun
      · nofun

/-- Members in another order, noise that comes or goes, and other white space make no difference to a text: it is read
as the same filter or fails with the same error. -/
theorem rearranged_text_reads_alike {phrase other : Phrase} {text otherText : String}
    (spelled : Json.Lexes phrase.tokens text.toList) (otherSpelled : Json.Lexes other.tokens otherText.toList)
    (alike : Phrase.Alike F phrase other) (fits : phrase.document.nesting ≤ Json.maxNesting)
    (otherFits : other.document.nesting ≤ Json.maxNesting) :
    ofJsonText (F := F) text = ofJsonText otherText := by
  have same : Json.readAs (ofJson (F := F)) text = Json.readAs ofJson otherText := by
    simp only [Phrase.read_as_spelled ofJson spelled fits, Phrase.read_as_spelled ofJson otherSpelled otherFits,
      Phrase.alike_well_formed alike, alike_of_json alike]
  rw [ofJsonText, ofJsonText, same]

-- A group of one condition with noise in both, once in order and once back to front with more noise.
def tidyText : String :=
  "\x7b\"logic\":\"and\",\"nodes\":[\x7b\"field\":\"a\",\"op\":\"=\",\"val\":1,\"x\":2\x7d]\x7d"

def untidyText : String :=
  " \x7b\"note\": null, \"note\": [\x7b\x7d],\n\"nodes\": [\x7b\"val\": 1, \"op\": \"=\", \"field\": \"a\"\x7d ]" ++
    ", \"logic\": \"and\"\x7d "

def tidyCondition : List (Option String × Phrase) :=
  [(some "field", .string (some "a")), (some "op", .string (some "=")), (some "val", .number (some (.int 1)))]

def tidyNoise : List (Option String × Phrase) :=
  [(some "x", .number (some (.int 2)))]

def untidyNoise : List (Option String × Phrase) :=
  [(some "note", .array [.object []]), (some "note", .null)]

def tidyGroup (condition : List (Option String × Phrase)) : List (Option String × Phrase) :=
  [(some "logic", .string (some "and")), (some "nodes", .array [.object condition])]

def tidyPhrase : Phrase :=
  .object (tidyGroup (tidyCondition ++ tidyNoise))

def untidyPhrase : Phrase :=
  .object (tidyGroup tidyCondition.reverse ++ untidyNoise).reverse

theorem untidy_text_reads_alike :
    ofJsonText tidyText = .ok ⟨some (.group .and none [.leaf (.of "a" .eq (.int 1))])⟩ ∧
      ofJsonText (F := String) untidyText = ofJsonText tidyText := by
  have tidyRead : Json.read tidyText = .ok tidyPhrase.document := by decide +kernel
  have untidyRead : Json.read untidyText = .ok untidyPhrase.document := by decide +kernel
  have condition : Phrase.Alike String (.object tidyCondition.reverse) (.object (tidyCondition ++ tidyNoise)) := by
    have reversed : tidyCondition.reverse.Perm (tidyCondition ++ []) :=
      (List.reverse_perm _).trans (.of_eq (List.append_nil _).symm)
    have unknown : ∀ member ∈ tidyNoise, Phrase.Noise member := by
      intro member listed
      obtain rfl := List.mem_singleton.mp listed
      exact ⟨⟨"x", by decide, rfl⟩, by decide⟩
    exact .object reversed (.refl _) (List.forall_mem_nil _) unknown (.same _ (.same _ (.same _ .nil)))
  have alike : Phrase.Alike String untidyPhrase tidyPhrase := by
    have reversed : (tidyGroup tidyCondition.reverse ++ untidyNoise).reverse.Perm
        (tidyGroup tidyCondition.reverse ++ untidyNoise) := List.reverse_perm _
    have kept : (tidyGroup (tidyCondition ++ tidyNoise)).Perm (tidyGroup (tidyCondition ++ tidyNoise) ++ []) :=
      .of_eq (List.append_nil _).symm
    have unknown : ∀ member ∈ untidyNoise, Phrase.Noise member := by
      intro member listed
      simp only [untidyNoise, List.mem_cons, List.not_mem_nil, or_false] at listed
      rcases listed with rfl | rfl <;> exact ⟨⟨"note", by decide, rfl⟩, by decide⟩
    exact .object reversed kept unknown (List.forall_mem_nil _) (.same _ (.nodes (.cons condition .nil) .nil))
  refine ⟨of_text_of_read tidyRead, ?_⟩
  exact rearranged_text_reads_alike (Phrase.spelled_of_read (by decide) untidyRead)
    (Phrase.spelled_of_read (by decide) tidyRead) alike (by decide) (by decide)

end Filter

end SqlFilter
