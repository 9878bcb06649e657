import SqlFilter.Proofs.Json.Reading
import SqlFilter.Proofs.Json.Soundness
import SqlFilter.Proofs.Json.Spacing

/-!
# The grammar of JSON texts

A phrase has everything of a text but its white space: spellings of numerals and strings, and the order of members. It
says which texts are well-formed without any reader.
-/

set_option autoImplicit false

namespace SqlFilter

/-- A text of the JSON grammar. A numeral too large for a double, and a string or key with half a surrogate pair,
stand for nothing: to the reader the text is malformed there. -/
inductive Phrase
  | null
  | bool (b : Bool)
  | number (n : Option Number)
  | string (s : Option String)
  | array (items : List Phrase)
  | object (members : List (Option String × Phrase))

namespace Json

def Token.ofNumber : Option Number → Token
  | some n => .number n
  | none => .broken .malformed

def Token.ofString : Option String → Token
  | some s => .string s
  | none => .brokenString .malformed

end Json

namespace Phrase

open Json (Token ReadError upToBroken readValue readItems readMembers)

mutual
def tokens : Phrase → List Token
  | .null => [.null]
  | .bool b => [.bool b]
  | .number n => [.ofNumber n]
  | .string s => [.ofString s]
  | .array [] => [.openArray, .closeArray]
  | .array (item :: items) => .openArray :: (tokens item ++ itemTokens items)
  | .object [] => [.openObject, .closeObject]
  | .object ((key, value) :: members) =>
      .openObject :: .ofString key :: .colon :: (tokens value ++ memberTokens members)
def itemTokens : List Phrase → List Token
  | [] => [.closeArray]
  | item :: items => .comma :: (tokens item ++ itemTokens items)
def memberTokens : List (Option String × Phrase) → List Token
  | [] => [.closeObject]
  | (key, value) :: members => .comma :: .ofString key :: .colon :: (tokens value ++ memberTokens members)
end

-- The document of a phrase, with something in the place of what stands for nothing.
mutual
def document : Phrase → Json
  | .null => .null
  | .bool b => .bool b
  | .number n => (n.map Json.number).getD .null
  | .string s => (s.map Json.string).getD .null
  | .array items => .array (documents items)
  | .object members => .object (memberDocuments members)
def documents : List Phrase → List Json
  | [] => []
  | item :: items => document item :: documents items
def memberDocuments : List (Option String × Phrase) → List (String × Json)
  | [] => []
  | (key, value) :: members => (key.getD "", document value) :: memberDocuments members
end

-- Every literal of the phrase stands for something.
def WellFormed (phrase : Phrase) : Prop :=
  Json.Unbroken phrase.tokens

instance (phrase : Phrase) : Decidable phrase.WellFormed :=
  inferInstanceAs (Decidable (Json.Unbroken phrase.tokens))

theorem item_tokens_unbroken (items : List Phrase) :
    Json.Unbroken (itemTokens items) ↔ ∀ item ∈ items, item.WellFormed := by
  induction items with
  | nil => simp [itemTokens, Token.isBroken]
  | cons item items ih => simp [itemTokens, Token.isBroken, WellFormed, ih]

theorem member_tokens_unbroken (members : List (Option String × Phrase)) :
    Json.Unbroken (memberTokens members) ↔ ∀ member ∈ members, member.1.isSome = true ∧ member.2.WellFormed := by
  induction members with
  | nil => simp [memberTokens, Token.isBroken]
  | cons member members ih =>
      obtain ⟨key, value⟩ := member
      cases key <;> simp [memberTokens, Token.ofString, Token.isBroken, WellFormed, ih]

theorem well_formed_array (items : List Phrase) : (array items).WellFormed ↔ ∀ item ∈ items, item.WellFormed := by
  cases items with
  | nil => simp [WellFormed, tokens, Token.isBroken]
  | cons item items => simp [WellFormed, tokens, Token.isBroken, item_tokens_unbroken]

theorem well_formed_object (members : List (Option String × Phrase)) :
    (object members).WellFormed ↔ ∀ member ∈ members, member.1.isSome = true ∧ member.2.WellFormed := by
  cases members with
  | nil => simp [WellFormed, tokens, Token.isBroken]
  | cons member members =>
      obtain ⟨key, value⟩ := member
      cases key <;> simp [WellFormed, tokens, Token.ofString, Token.isBroken, member_tokens_unbroken]

mutual
theorem well_formed_tokens (phrase : Phrase) (wellFormed : phrase.WellFormed) :
    phrase.tokens = phrase.document.toTokens := by
  cases phrase with
  | null | bool b => rfl
  | number n =>
      cases n with
      | none => simp [WellFormed, tokens, Token.ofNumber, Token.isBroken] at wellFormed
      | some n => rfl
  | string s =>
      cases s with
      | none => simp [WellFormed, tokens, Token.ofString, Token.isBroken] at wellFormed
      | some s => rfl
  | array items =>
      have each := (well_formed_array items).mp wellFormed
      cases items with
      | nil => rfl
      | cons item items =>
          obtain ⟨first, others⟩ := List.forall_mem_cons.mp each
          rw [tokens, document, documents, Json.toTokens, well_formed_tokens item first, well_formed_items items others]
  | object members =>
      have each := (well_formed_object members).mp wellFormed
      cases members with
      | nil => rfl
      | cons member members =>
          obtain ⟨key, value⟩ := member
          obtain ⟨⟨keyed, first⟩, others⟩ := List.forall_mem_cons.mp each
          obtain ⟨key, rfl⟩ := Option.isSome_iff_exists.mp keyed
          rw [tokens, document, memberDocuments, Json.toTokens, well_formed_tokens value first,
            well_formed_members members others]
          rfl
theorem well_formed_items (items : List Phrase) (wellFormed : ∀ item ∈ items, item.WellFormed) :
    itemTokens items = Json.itemTokens (documents items) := by
  cases items with
  | nil => rfl
  | cons item items =>
      obtain ⟨first, others⟩ := List.forall_mem_cons.mp wellFormed
      rw [itemTokens, documents, Json.itemTokens, well_formed_tokens item first, well_formed_items items others]
theorem well_formed_members (members : List (Option String × Phrase))
    (wellFormed : ∀ member ∈ members, member.1.isSome = true ∧ member.2.WellFormed) :
    memberTokens members = Json.memberTokens (memberDocuments members) := by
  cases members with
  | nil => rfl
  | cons member members =>
      obtain ⟨key, value⟩ := member
      obtain ⟨⟨keyed, first⟩, others⟩ := List.forall_mem_cons.mp wellFormed
      obtain ⟨key, rfl⟩ := Option.isSome_iff_exists.mp keyed
      rw [memberTokens, memberDocuments, Json.memberTokens, well_formed_tokens value first,
        well_formed_members members others]
      rfl
end

theorem read_well_formed (phrase : Phrase) (wellFormed : phrase.WellFormed) (fuel room : Nat) (rest : List Token)
    (enough : 2 * phrase.tokens.length ≤ fuel) (fits : phrase.document.nesting ≤ room) :
    readValue fuel room (phrase.tokens ++ rest) = .ok (phrase.document, rest) := by
  rw [well_formed_tokens phrase wellFormed] at enough ⊢
  exact Json.read_item fuel room phrase.document rest (Json.read_value phrase.document) enough fits

-- Reading the phrase, if it is not well formed, fails at the first literal that stands for nothing. There has to be
-- room for its brackets.
def Refused (phrase : Phrase) : Prop :=
  ∀ fuel room, ¬ phrase.WellFormed → 2 * (upToBroken phrase.tokens).length ≤ fuel → phrase.document.nesting ≤ room →
    readValue fuel room (upToBroken phrase.tokens) = .error .malformed

theorem tokens_head (phrase : Phrase) :
    ∃ token others, phrase.tokens = token :: others ∧ token ≠ .closeArray := by
  cases phrase with
  | null | bool b =>
      rw [tokens]
      exact ⟨_, _, rfl, nofun⟩
  | number n | string n =>
      cases n <;> rw [tokens] <;> exact ⟨_, _, rfl, nofun⟩
  | array items =>
      cases items <;> rw [tokens] <;> exact ⟨_, _, rfl, nofun⟩
  | object members =>
      rcases members with _ | ⟨⟨key, value⟩, members⟩ <;> rw [tokens] <;> exact ⟨_, _, rfl, nofun⟩

theorem cut_array (item : Phrase) (items : List Phrase) :
    upToBroken (array (item :: items)).tokens = .openArray :: upToBroken (item.tokens ++ itemTokens items) := by
  rw [tokens, Json.up_to_broken_cons _ _ rfl]

theorem cut_object (key : Option String) (value : Phrase) (members : List (Option String × Phrase)) :
    upToBroken (object ((key, value) :: members)).tokens =
      .openObject :: upToBroken (.ofString key :: .colon :: (value.tokens ++ memberTokens members)) := by
  rw [tokens, Json.up_to_broken_cons _ _ rfl]

theorem cut_items (item : Phrase) (items : List Phrase) :
    upToBroken (itemTokens (item :: items)) = .comma :: upToBroken (item.tokens ++ itemTokens items) := by
  rw [itemTokens, Json.up_to_broken_cons _ _ rfl]

theorem cut_members (key : Option String) (value : Phrase) (members : List (Option String × Phrase)) :
    upToBroken (memberTokens ((key, value) :: members)) =
      .comma :: upToBroken (.ofString key :: .colon :: (value.tokens ++ memberTokens members)) := by
  rw [memberTokens, Json.up_to_broken_cons _ _ rfl]

theorem cut_member (key : String) (tokens : List Token) :
    upToBroken (.ofString (some key) :: .colon :: tokens) = .string key :: .colon :: upToBroken tokens := by
  rw [Json.up_to_broken_cons _ _ rfl, Json.up_to_broken_cons _ _ rfl]
  rfl

theorem read_array_phrase (fuel room : Nat) (item : Phrase) (others : List Token) :
    readValue (fuel + 1) (room + 1) (.openArray :: upToBroken (item.tokens ++ others)) =
      (readItems fuel room (upToBroken (item.tokens ++ others))).map fun read => (.array read.1, read.2) := by
  obtain ⟨token, rest, head, noClose⟩ := tokens_head item
  obtain ⟨left, starts⟩ := Json.up_to_broken_head token (rest ++ others)
  rw [head, List.cons_append, starts, Json.read_open_array fuel room token left noClose]

mutual
theorem ill_formed_refused (phrase : Phrase) : phrase.Refused := by
  intro fuel room illFormed enough fits
  obtain ⟨token, others, head, _⟩ := tokens_head phrase
  obtain ⟨left, starts⟩ := Json.up_to_broken_head token others
  obtain ⟨fuel, rfl⟩ : ∃ steps, fuel = steps + 1 := by
    simp only [head, starts, List.length_cons] at enough
    exact ⟨fuel - 1, by omega⟩
  clear head starts
  cases phrase with
  | null | bool b => exact absurd (by simp [WellFormed, tokens, Token.isBroken]) illFormed
  | number n =>
      cases n with
      | none => rfl
      | some n => exact absurd (by simp [WellFormed, tokens, Token.ofNumber, Token.isBroken]) illFormed
  | string s =>
      cases s with
      | none => rfl
      | some s => exact absurd (by simp [WellFormed, tokens, Token.ofString, Token.isBroken]) illFormed
  | array items =>
      rw [well_formed_array] at illFormed
      cases items with
      | nil => exact absurd nofun illFormed
      | cons item items =>
          rw [document, documents, Json.nesting, Json.itemNesting] at fits
          obtain ⟨room, rfl⟩ : ∃ brackets, room = brackets + 1 := ⟨room - 1, by omega⟩
          rw [cut_array, List.length_cons] at enough
          rw [cut_array, read_array_phrase,
            ill_formed_items_refused items item (ill_formed_refused item) fuel room illFormed (by omega) (by omega)]
          rfl
  | object members =>
      rw [well_formed_object] at illFormed
      cases members with
      | nil => exact absurd nofun illFormed
      | cons member members =>
          obtain ⟨key, value⟩ := member
          rw [document, memberDocuments, Json.nesting, Json.memberNesting] at fits
          obtain ⟨room, rfl⟩ : ∃ brackets, room = brackets + 1 := ⟨room - 1, by omega⟩
          obtain ⟨left, keyed⟩ :=
            Json.up_to_broken_head (.ofString key) (.colon :: (value.tokens ++ memberTokens members))
          have refused := ill_formed_members_refused members key value (ill_formed_refused value) fuel room illFormed
          rw [cut_object, List.length_cons] at enough
          rw [cut_object, keyed, Json.read_open_object fuel room (.ofString key) left (by cases key <;> nofun), ← keyed,
            refused (by omega) (by omega)]
          rfl
theorem ill_formed_items_refused (items : List Phrase) (item : Phrase) (first : item.Refused) (fuel room : Nat)
    (illFormed : ¬ ∀ each ∈ item :: items, each.WellFormed)
    (enough : 2 * (upToBroken (item.tokens ++ itemTokens items)).length < fuel)
    (fits : max item.document.nesting (Json.itemNesting (documents items)) ≤ room) :
    readItems fuel room (upToBroken (item.tokens ++ itemTokens items)) = .error .malformed := by
  obtain ⟨fuel, rfl⟩ : ∃ steps, fuel = steps + 1 := ⟨fuel - 1, by omega⟩
  by_cases wellFormed : item.WellFormed
  · rw [Json.up_to_broken_unbroken _ _ wellFormed, List.length_append] at enough
    rw [Json.up_to_broken_unbroken _ _ wellFormed]
    cases items with
    | nil => exact absurd (by simpa using wellFormed) illFormed
    | cons next items =>
        have others : ¬ ∀ each ∈ next :: items, each.WellFormed := fun all =>
          illFormed (List.forall_mem_cons.mpr ⟨wellFormed, all⟩)
        rw [cut_items, List.length_cons] at enough
        rw [documents, Json.itemNesting] at fits
        have read := read_well_formed item wellFormed fuel room (.comma :: upToBroken (next.tokens ++ itemTokens items))
          (by omega) (by omega)
        rw [cut_items, Json.read_more_items fuel room item.document _ _ read,
          ill_formed_items_refused items next (ill_formed_refused next) fuel room others (by omega) (by omega)]
        rfl
  · rw [Json.up_to_broken_broken _ _ wellFormed] at enough ⊢
    rw [readItems, first fuel room wellFormed (by omega) (by omega)]
theorem ill_formed_members_refused (members : List (Option String × Phrase)) (key : Option String) (value : Phrase)
    (first : value.Refused) (fuel room : Nat)
    (illFormed : ¬ ∀ each ∈ (key, value) :: members, each.1.isSome = true ∧ each.2.WellFormed)
    (enough : 2 * (upToBroken (.ofString key :: .colon :: (value.tokens ++ memberTokens members))).length < fuel)
    (fits : max value.document.nesting (Json.memberNesting (memberDocuments members)) ≤ room) :
    readMembers fuel room (upToBroken (.ofString key :: .colon :: (value.tokens ++ memberTokens members))) =
      .error .malformed := by
  obtain ⟨fuel, rfl⟩ : ∃ steps, fuel = steps + 1 := ⟨fuel - 1, by omega⟩
  cases key with
  | none => rfl
  | some key =>
      rw [cut_member, List.length_cons, List.length_cons] at enough
      rw [cut_member]
      by_cases wellFormed : value.WellFormed
      · rw [Json.up_to_broken_unbroken _ _ wellFormed, List.length_append] at enough
        rw [Json.up_to_broken_unbroken _ _ wellFormed]
        cases members with
        | nil => exact absurd (by simpa using wellFormed) illFormed
        | cons member members =>
            obtain ⟨nextKey, next⟩ := member
            have others : ¬ ∀ each ∈ (nextKey, next) :: members, each.1.isSome = true ∧ each.2.WellFormed := fun all =>
              illFormed (List.forall_mem_cons.mpr ⟨⟨rfl, wellFormed⟩, all⟩)
            rw [cut_members, List.length_cons] at enough
            rw [memberDocuments, Json.memberNesting] at fits
            have read := read_well_formed value wellFormed fuel room
              (.comma :: upToBroken (.ofString nextKey :: .colon :: (next.tokens ++ memberTokens members)))
              (by omega) (by omega)
            rw [cut_members, Json.read_more_members fuel room key value.document _ _ read,
              ill_formed_members_refused members nextKey next (ill_formed_refused next) fuel room others (by omega)
                (by omega)]
            rfl
      · rw [Json.up_to_broken_broken _ _ wellFormed] at enough ⊢
        rw [readMembers, first fuel room wellFormed (by omega) (by omega)]
end

-- What a text stands for depends on the phrase alone that it spells.
theorem read_as_spelled {α : Type} (decode : Json → Except ReadError α) {phrase : Phrase} {text : String}
    (spelled : Json.Lexes phrase.tokens text.toList) (fits : phrase.document.nesting ≤ Json.maxNesting) :
    Json.readAs decode text = if phrase.WellFormed then decode phrase.document else .error .malformed := by
  rw [Json.readAs, Json.readFront, Json.tokens_lexes spelled]
  by_cases wellFormed : phrase.WellFormed
  · have whole := Json.up_to_broken_unbroken phrase.tokens [] wellFormed
    have read := read_well_formed phrase wellFormed (2 * phrase.tokens.length + 1) Json.maxNesting [] (by omega) fits
    rw [List.append_nil] at whole read
    rw [upToBroken, List.append_nil] at whole
    rw [whole, read, if_pos wellFormed]
    dsimp only
    cases decode phrase.document <;> rfl
  · rw [ill_formed_refused phrase _ _ wellFormed (by omega) fits, if_neg wellFormed]

mutual
def ofJson : Json → Phrase
  | .null => .null
  | .bool b => .bool b
  | .number n => .number (some n)
  | .string s => .string (some s)
  | .array items => .array (ofItems items)
  | .object members => .object (ofMembers members)
def ofItems : List Json → List Phrase
  | [] => []
  | item :: items => ofJson item :: ofItems items
def ofMembers : List (String × Json) → List (Option String × Phrase)
  | [] => []
  | (key, value) :: members => (some key, ofJson value) :: ofMembers members
end

mutual
theorem of_json_exact (json : Json) : (ofJson json).WellFormed ∧ (ofJson json).document = json := by
  cases json with
  | null | bool b => exact ⟨by simp [WellFormed, ofJson, tokens, Token.isBroken], rfl⟩
  | number n => exact ⟨by simp [WellFormed, ofJson, tokens, Token.ofNumber, Token.isBroken], rfl⟩
  | string s => exact ⟨by simp [WellFormed, ofJson, tokens, Token.ofString, Token.isBroken], rfl⟩
  | array items =>
      obtain ⟨each, same⟩ := of_items_exact items
      exact ⟨(well_formed_array _).mpr each, by rw [ofJson, document, same]⟩
  | object members =>
      obtain ⟨each, same⟩ := of_members_exact members
      exact ⟨(well_formed_object _).mpr each, by rw [ofJson, document, same]⟩
theorem of_items_exact (items : List Json) :
    (∀ item ∈ ofItems items, item.WellFormed) ∧ documents (ofItems items) = items := by
  cases items with
  | nil => exact ⟨nofun, rfl⟩
  | cons item items =>
      obtain ⟨first, same⟩ := of_json_exact item
      obtain ⟨each, rest⟩ := of_items_exact items
      rw [ofItems]
      exact ⟨List.forall_mem_cons.mpr ⟨first, each⟩, by rw [documents, same, rest]⟩
theorem of_members_exact (members : List (String × Json)) :
    (∀ member ∈ ofMembers members, member.1.isSome = true ∧ member.2.WellFormed) ∧
      memberDocuments (ofMembers members) = members := by
  cases members with
  | nil => exact ⟨nofun, rfl⟩
  | cons member members =>
      obtain ⟨key, value⟩ := member
      obtain ⟨first, same⟩ := of_json_exact value
      obtain ⟨each, rest⟩ := of_members_exact members
      rw [ofMembers]
      exact ⟨List.forall_mem_cons.mpr ⟨⟨rfl, first⟩, each⟩, by rw [memberDocuments, same, rest, Option.getD_some]⟩
end

theorem spelled_of_read {phrase : Phrase} {text : String} (wellFormed : phrase.WellFormed)
    (accepted : Json.read text = .ok phrase.document) : Json.Lexes phrase.tokens text.toList := by
  have consumed := (Json.read_text_sound accepted).1
  rw [← well_formed_tokens phrase wellFormed] at consumed
  rw [← consumed]
  exact Json.lexes_tokens text.toList (consumed ▸ wellFormed)

-- The texts that are read are the spellings of the well formed phrases with no more than 127 brackets open at once.
theorem read_iff_spelled (text : String) (json : Json) :
    Json.read text = .ok json ↔ ∃ phrase : Phrase, phrase.WellFormed ∧ phrase.document = json ∧
      json.nesting ≤ Json.maxNesting ∧ Json.Lexes phrase.tokens text.toList := by
  constructor
  · intro accepted
    obtain ⟨wellFormed, same⟩ := of_json_exact json
    have spelled := spelled_of_read wellFormed (accepted.trans (congrArg Except.ok same.symm))
    exact ⟨ofJson json, wellFormed, same, (Json.read_text_sound accepted).2, spelled⟩
  · rintro ⟨phrase, wellFormed, rfl, fits, spelled⟩
    rw [Json.read, read_as_spelled .ok spelled fits, if_pos wellFormed]

end Phrase

end SqlFilter
