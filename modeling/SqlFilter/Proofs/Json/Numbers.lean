import SqlFilter.Proofs.Json.Decoding
import SqlFilter.Proofs.Json.RoundTrip

/-!
# Numbers that texts can hold

Numbers read from a text fit into 64 bits or are doubles, and so do those in the conditions that come of it.
-/

set_option autoImplicit false

namespace SqlFilter

namespace Number

theorem gather_bounded (n : Nat) (digits : List Char) (bounded : n ≤ gatherLimit) :
    (gather n digits).1 ≤ gatherLimit := by
  induction digits generalizing n with
  | nil => exact bounded
  | cons digit digits ih =>
      rw [gather]
      by_cases next : n * 10 + (digit.toNat - 48) ≤ gatherLimit
      · rw [if_pos next]
        exact ih _ next
      · rw [if_neg next]
        exact bounded

theorem of_numeral_fits (numeral : Decimal.Numeral) (n : Number) (value : ofNumeral? numeral = some n) : n.Fits := by
  have bounded : (gather 0 numeral.whole).1 ≤ gatherLimit := gather_bounded 0 numeral.whole (Nat.zero_le _)
  rw [ofNumeral?] at value
  dsimp only at value
  split at value
  · split at value
    · cases value
      rw [Fits]
      have limit : gatherLimit = 18446744073709551615 := rfl
      omega
    · split at value
      · cases value
        trivial
      · rename_i inside
        cases value
        simp only [Bool.or_eq_true, decide_eq_true_eq, not_or, Nat.not_lt] at inside
        rw [Fits]
        omega
  · obtain ⟨x, _, rfl⟩ := Option.map_eq_some_iff.mp value
    trivial

end Number

namespace Json

-- Every whole number is within 64 bits.
mutual
def Sized : Json → Prop
  | .null | .bool _ | .string _ => True
  | .number n => n.Fits
  | .array items => AllSized items
  | .object members => MembersSized members
def AllSized : List Json → Prop
  | [] => True
  | item :: items => item.Sized ∧ AllSized items
def MembersSized : List (String × Json) → Prop
  | [] => True
  | (_, value) :: members => value.Sized ∧ MembersSized members
end

def Token.Sized : Token → Prop
  | .number n => n.Fits
  | _ => True

theorem word_token_sized (word : List Char) (token : Token) (cs : List Char) (sized : token.Sized) :
    (wordToken word token cs).1.Sized := by
  unfold wordToken
  split
  · exact sized
  · trivial

theorem number_token_sized (cs : List Char) : (numberToken cs).1.Sized := by
  unfold numberToken
  split
  · split
    · rename_i value
      exact Number.of_numeral_fits _ _ value
    · trivial
  · trivial

theorem punctuation_sized (c : Char) (token : Token) (found : punctuation.lookup c = some token) : token.Sized := by
  obtain ⟨before, after, listed, _⟩ := List.lookup_eq_some_iff.mp found
  have member : (c, token) ∈ punctuation := by simp [listed]
  simp only [punctuation, List.mem_cons, List.not_mem_nil, or_false, Prod.mk.injEq] at member
  rcases member with ⟨_, rfl⟩ | ⟨_, rfl⟩ | ⟨_, rfl⟩ | ⟨_, rfl⟩ | ⟨_, rfl⟩ | ⟨_, rfl⟩ <;> trivial

theorem first_token_sized (c : Char) (rest : List Char) : (firstToken c rest).1.Sized := by
  unfold firstToken
  split
  · rename_i found
    exact punctuation_sized c _ found
  · repeat' split
    · unfold stringToken
      split <;> trivial
    · exact number_token_sized _
    · exact word_token_sized _ _ _ trivial
    · exact word_token_sized _ _ _ trivial
    · exact word_token_sized _ _ _ trivial
    · trivial

theorem tokens_sized (cs : List Char) : ∀ token ∈ tokens cs, token.Sized := by
  fun_induction tokens cs with
  | case1 => nofun
  | case2 c rest space ih => exact ih
  | case3 c rest solid next ih => exact List.forall_mem_cons.mpr ⟨first_token_sized c rest, ih⟩

mutual
theorem sized_of_tokens (document : Json) (sized : ∀ token ∈ document.toTokens, token.Sized) : document.Sized := by
  cases document with
  | null | bool b | string s => trivial
  | number n => exact sized (.number n) (by simp [toTokens])
  | array items =>
      cases items with
      | nil => trivial
      | cons item items =>
          simp only [toTokens, List.forall_mem_cons, List.forall_mem_append] at sized
          exact ⟨sized_of_tokens item sized.2.1, items_sized_of_tokens items sized.2.2⟩
  | object members =>
      cases members with
      | nil => trivial
      | cons member members =>
          simp only [toTokens, List.forall_mem_cons, List.forall_mem_append] at sized
          exact ⟨sized_of_tokens member.2 sized.2.2.2.1, members_sized_of_tokens members sized.2.2.2.2⟩
theorem items_sized_of_tokens (items : List Json) (sized : ∀ token ∈ itemTokens items, token.Sized) :
    AllSized items := by
  cases items with
  | nil => trivial
  | cons item items =>
      simp only [itemTokens, List.forall_mem_cons, List.forall_mem_append] at sized
      exact ⟨sized_of_tokens item sized.2.1, items_sized_of_tokens items sized.2.2⟩
theorem members_sized_of_tokens (members : List (String × Json))
    (sized : ∀ token ∈ memberTokens members, token.Sized) : MembersSized members := by
  cases members with
  | nil => trivial
  | cons member members =>
      simp only [memberTokens, List.forall_mem_cons, List.forall_mem_append] at sized
      exact ⟨sized_of_tokens member.2 sized.2.2.2.1, members_sized_of_tokens members sized.2.2.2.2⟩
end

theorem read_text_sized {text : String} {document : Json} (accepted : read text = .ok document) : document.Sized :=
  sized_of_tokens document ((read_text_sound accepted).1 ▸ tokens_sized text.toList)

end Json

namespace Value

mutual
def FloatFree : Value → Prop
  | .null | .bool _ | .int _ | .uint _ | .string _ => True
  | .float _ => False
  | .array items => AllFloatFree items
  | .object o => Json.MembersFloatFree o.members
def AllFloatFree : List Value → Prop
  | [] => True
  | item :: items => item.FloatFree ∧ AllFloatFree items
end

mutual
theorem float_free_of_exact (value : Value) (kept : value.Exact) : value.FloatFree := by
  cases value with
  | null | bool b | int n | uint n | string s => trivial
  | float x => exact kept.elim
  | array items => exact all_float_free_of_exact items kept
  | object o => exact kept
theorem all_float_free_of_exact (items : List Value) (kept : AllExact items) : AllFloatFree items := by
  cases items with
  | nil => trivial
  | cons item items => exact ⟨float_free_of_exact item kept.1, all_float_free_of_exact items kept.2⟩
end

-- A value that can have been read: one of a document with whole numbers within 64 bits.
def Within64 (value : Value) : Prop :=
  ∃ document : Json, document.Sized ∧ ofJson document = value

mutual
theorem of_json_exact (document : Json) (sized : document.Sized) (floatFree : (ofJson document).FloatFree) :
    (ofJson document).Exact := by
  cases document with
  | null | bool b | string s => trivial
  | number n =>
      cases n with
      | float x => exact floatFree.elim
      | int n =>
          rw [ofJson, ofNumber, ofInt]
          by_cases small : n < 9223372036854775808
          · rw [if_pos small]
            trivial
          · have upper : n < 18446744073709551616 := sized.2
            have size : n.toNat < UInt64.size := by
              simp only [UInt64.size]
              omega
            rw [if_neg small, Exact, UInt64.toNat_ofNat_of_lt' size]
            omega
  | array items => exact of_json_all_exact items sized floatFree
  | object members => exact floatFree
theorem of_json_all_exact (items : List Json) (sized : Json.AllSized items)
    (floatFree : AllFloatFree (ofJsonItems items)) : AllExact (ofJsonItems items) := by
  cases items with
  | nil => trivial
  | cons item items =>
      exact ⟨of_json_exact item sized.1 floatFree.1, of_json_all_exact items sized.2 floatFree.2⟩
end

end Value

namespace Json

theorem members_sized_of_mem (members : List (String × Json)) (sized : MembersSized members) :
    ∀ member ∈ members, member.2.Sized := by
  induction members with
  | nil => nofun
  | cons member members ih => exact List.forall_mem_cons.mpr ⟨sized.1, ih sized.2⟩

theorem items_sized_of_mem (items : List Json) (sized : AllSized items) : ∀ item ∈ items, item.Sized := by
  induction items with
  | nil => nofun
  | cons item items ih => exact List.forall_mem_cons.mpr ⟨sized.1, ih sized.2⟩

end Json

namespace Node

def Within64 (node : Node String) : Prop :=
  ∀ leaf ∈ node.leaves, leaf.value.Within64

def AllWithin64 (nodes : List (Node String)) : Prop :=
  ∀ leaf ∈ leavesOf nodes, leaf.value.Within64

theorem leaf_within (leaf : Leaf String) (within : leaf.value.Within64) : (Node.leaf leaf).Within64 := by
  intro other member
  rwa [List.mem_singleton.mp member]

mutual
theorem decodes_within (node : Node String) (document : Json) (sized : document.Sized)
    (decodes : Decodes document node) : node.Within64 := by
  cases decodes with
  | @leafObject members leaf _ read =>
      obtain ⟨value, member, same⟩ := Leaf.of_members_value read
      exact leaf_within leaf ⟨value, Json.members_sized_of_mem members sized _ member, same.symm⟩
  | @leafArray items leaf read =>
      obtain ⟨value, member, same⟩ := Leaf.of_items_value read
      exact leaf_within leaf ⟨value, Json.items_sized_of_mem items sized _ member, same.symm⟩
  | @groupObject members _ _ _ _ items nodes _ _ _ _ content children =>
      have itemsSized : (Json.array items).Sized :=
        Json.members_sized_of_mem members sized _ (Json.member_found content)
      exact all_decode_within nodes items itemsSized children
  | @groupArray _ _ _ _ items nodes _ _ children => exact all_decode_within nodes items sized.2.2.1 children
theorem all_decode_within (nodes : List (Node String)) (items : List Json) (sized : Json.AllSized items)
    (decode : AllDecode items nodes) : AllWithin64 nodes := by
  cases decode with
  | nil => nofun
  | @cons item node items nodes head tail =>
      intro leaf member
      exact (List.mem_append.mp member).elim (decodes_within node item sized.1 head leaf)
        (all_decode_within nodes items sized.2 tail leaf)
end

end Node

namespace Filter

def FloatFree (filter : Filter String) : Prop :=
  ∀ root ∈ filter.root, ∀ leaf ∈ root.leaves, leaf.value.FloatFree

-- What has been read can be written and read again: its whole numbers are in the form in which they are read.
theorem exact_of_read (text : String) (filter : Filter String) (read : ofJsonText text = .ok filter)
    (floatFree : filter.FloatFree) : filter.Exact := by
  obtain ⟨document, accepted, decoded⟩ := of_text_read read
  intro root present leaf member
  obtain ⟨source, sized, same⟩ :=
    Node.decodes_within root document (Json.read_text_sized accepted) (of_json_root decoded root present) leaf member
  have free := floatFree root present leaf member
  rw [← same] at free ⊢
  exact Value.of_json_exact source sized free

end Filter

end SqlFilter
