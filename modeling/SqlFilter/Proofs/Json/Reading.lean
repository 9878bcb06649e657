import SqlFilter.Proofs.Json.Nesting

/-!
# Written documents are read back

The readers give a written document back if there is room for its brackets, and refuse it otherwise.
-/

set_option autoImplicit false

namespace SqlFilter.Json

def bounded {α : Type} (nesting room : Nat) (result : α) : Except ReadError α :=
  if nesting ≤ room then .ok result else .error .malformed

theorem bounded_succ {α : Type} (nesting room : Nat) (result : α) :
    bounded (1 + nesting) (room + 1) result = bounded nesting room result := by
  unfold bounded
  rw [Nat.add_comm 1]
  simp only [Nat.add_le_add_iff_right]

theorem bounded_zero {α : Type} (nesting : Nat) (result : α) : bounded (1 + nesting) 0 result = .error .malformed := by
  rw [bounded, if_neg (by omega)]

theorem bounded_max {α : Type} (a b room : Nat) (fits : a ≤ room) (result : α) :
    bounded (max a b) room result = bounded b room result := by
  unfold bounded
  simp only [Nat.max_le, fits, true_and]

theorem bounded_map {α β : Type} (nesting room : Nat) (result : α) (f : α → β) :
    (bounded nesting room result).map f = bounded nesting room (f result) := by
  unfold bounded
  split <;> rfl

-- Reading a document off its tokens gives it back when there is room for its brackets, and fails for want of room
-- otherwise. Two steps for each token are enough.
def ReadsBack (document : Json) : Prop :=
  ∀ fuel room rest, 2 * document.toTokens.length ≤ fuel →
    readValue fuel room (document.toTokens ++ rest) = bounded document.nesting room (document, rest)

theorem tokens_head (document : Json) :
    ∃ token others, document.toTokens = token :: others ∧ token ≠ .closeArray := by
  cases document with
  | null | bool b | number n | string s =>
      rw [toTokens]
      exact ⟨_, _, rfl, nofun⟩
  | array items =>
      cases items <;> rw [toTokens] <;> exact ⟨_, _, rfl, nofun⟩
  | object members =>
      rcases members with _ | ⟨⟨key, value⟩, members⟩ <;> rw [toTokens] <;> exact ⟨_, _, rfl, nofun⟩

theorem read_open_array (fuel room : Nat) (token : Token) (others : List Token) (noClose : token ≠ .closeArray) :
    readValue (fuel + 1) (room + 1) (.openArray :: token :: others) =
      (readItems fuel room (token :: others)).map fun read => (.array read.1, read.2) := by
  rw [readValue]
  · cases readItems fuel room (token :: others) <;> rfl
  · intro rest same
    exact noClose (List.cons.inj same).1

theorem read_array (fuel room : Nat) (document : Json) (tokens : List Token) :
    readValue (fuel + 1) (room + 1) (.openArray :: (document.toTokens ++ tokens)) =
      (readItems fuel room (document.toTokens ++ tokens)).map fun read => (.array read.1, read.2) := by
  obtain ⟨token, others, head, noClose⟩ := tokens_head document
  rw [head, List.cons_append, read_open_array fuel room token _ noClose]

theorem read_open_object (fuel room : Nat) (token : Token) (others : List Token) (noClose : token ≠ .closeObject) :
    readValue (fuel + 1) (room + 1) (.openObject :: token :: others) =
      (readMembers fuel room (token :: others)).map fun read => (.object read.1, read.2) := by
  rw [readValue]
  · cases readMembers fuel room (token :: others) <;> rfl
  · intro rest same
    exact noClose (List.cons.inj same).1

theorem read_more_items (fuel room : Nat) (item : Json) (tokens others : List Token)
    (read : readValue fuel room tokens = .ok (item, .comma :: others)) :
    readItems (fuel + 1) room tokens = (readItems fuel room others).map fun more => (item :: more.1, more.2) := by
  rw [readItems, read]
  dsimp only
  cases readItems fuel room others <;> rfl

theorem read_more_members (fuel room : Nat) (key : String) (value : Json) (tokens others : List Token)
    (read : readValue fuel room tokens = .ok (value, .comma :: others)) :
    readMembers (fuel + 1) room (.string key :: .colon :: tokens) =
      (readMembers fuel room others).map fun more => ((key, value) :: more.1, more.2) := by
  rw [readMembers, read]
  dsimp only
  cases readMembers fuel room others <;> rfl

theorem read_item (fuel room : Nat) (item : Json) (tokens : List Token) (first : item.ReadsBack)
    (enough : 2 * item.toTokens.length ≤ fuel) (fits : item.nesting ≤ room) :
    readValue fuel room (item.toTokens ++ tokens) = .ok (item, tokens) := by
  rw [first fuel room tokens enough, bounded, if_pos fits]

theorem too_deep_item (fuel room : Nat) (item : Json) (tokens : List Token) (first : item.ReadsBack)
    (enough : 2 * item.toTokens.length ≤ fuel) (deep : ¬ item.nesting ≤ room) :
    readValue fuel room (item.toTokens ++ tokens) = .error .malformed := by
  rw [first fuel room tokens enough, bounded, if_neg deep]

theorem item_tokens_present (items : List Json) : 0 < (itemTokens items).length := by
  cases items <;> simp [itemTokens]

mutual
theorem read_value (document : Json) : document.ReadsBack := by
  intro fuel room rest enough
  obtain ⟨token, others, head, _⟩ := tokens_head document
  obtain ⟨fuel, rfl⟩ : ∃ steps, fuel = steps + 1 := by
    simp only [head, List.length_cons] at enough
    exact ⟨fuel - 1, by omega⟩
  clear head
  cases document with
  | null | bool b | number n | string s =>
      rw [toTokens, List.cons_append, readValue, nesting, bounded, if_pos (Nat.zero_le room)]
      rfl
  | array items =>
      cases items with
      | nil =>
          rw [toTokens, nesting, itemNesting]
          cases room with
          | zero => rfl
          | succ room => rfl
      | cons item items =>
          simp only [toTokens, List.length_cons, List.length_append] at enough
          rw [toTokens, nesting, itemNesting, List.cons_append, List.append_assoc]
          cases room with
          | zero =>
              rw [readValue, bounded_zero]
          | succ room =>
              rw [read_array, read_items items item (read_value item) fuel room rest (by omega), bounded_map,
                bounded_succ]
  | object members =>
      cases members with
      | nil =>
          rw [toTokens, nesting, memberNesting]
          cases room with
          | zero => rfl
          | succ room => rfl
      | cons member members =>
          obtain ⟨key, value⟩ := member
          simp only [toTokens, List.length_cons, List.length_append] at enough
          rw [toTokens, nesting, memberNesting, List.cons_append, List.cons_append, List.cons_append, List.append_assoc]
          cases room with
          | zero =>
              rw [readValue, bounded_zero]
          | succ room =>
              rw [read_open_object fuel room (.string key) _ nofun,
                read_members members key value (read_value value) fuel room rest (by omega), bounded_map, bounded_succ]
theorem read_items (items : List Json) (item : Json) (first : item.ReadsBack) (fuel room : Nat) (rest : List Token)
    (enough : 2 * (item.toTokens.length + (itemTokens items).length) ≤ fuel) :
    readItems fuel room (item.toTokens ++ (itemTokens items ++ rest)) =
      bounded (max item.nesting (itemNesting items)) room (item :: items, rest) := by
  have present := item_tokens_present items
  obtain ⟨fuel, rfl⟩ : ∃ steps, fuel = steps + 1 := ⟨fuel - 1, by omega⟩
  by_cases fits : item.nesting ≤ room
  · have read := read_item fuel room item (itemTokens items ++ rest) first (by omega) fits
    rw [bounded_max _ _ _ fits]
    cases items with
    | nil =>
        rw [readItems, read, itemTokens, itemNesting, bounded, if_pos (Nat.zero_le room)]
        rfl
    | cons next items =>
        simp only [itemTokens, List.length_cons, List.length_append] at enough
        rw [itemTokens, List.cons_append, List.append_assoc] at read ⊢
        rw [read_more_items fuel room item _ _ read,
          read_items items next (read_value next) fuel room rest (by omega), bounded_map, itemNesting]
  · rw [readItems, too_deep_item fuel room item _ first (by omega) fits, bounded, if_neg (by omega)]
theorem read_members (members : List (String × Json)) (key : String) (value : Json) (first : value.ReadsBack)
    (fuel room : Nat) (rest : List Token)
    (enough : 2 * (2 + value.toTokens.length + (memberTokens members).length) ≤ fuel) :
    readMembers fuel room (.string key :: .colon :: (value.toTokens ++ (memberTokens members ++ rest))) =
      bounded (max value.nesting (memberNesting members)) room ((key, value) :: members, rest) := by
  obtain ⟨fuel, rfl⟩ : ∃ steps, fuel = steps + 1 := ⟨fuel - 1, by omega⟩
  by_cases fits : value.nesting ≤ room
  · have read := read_item fuel room value (memberTokens members ++ rest) first (by omega) fits
    rw [bounded_max _ _ _ fits]
    cases members with
    | nil =>
        rw [readMembers, read, memberTokens, memberNesting, bounded, if_pos (Nat.zero_le room)]
        rfl
    | cons next members =>
        obtain ⟨nextKey, next⟩ := next
        simp only [memberTokens, List.length_cons, List.length_append] at enough
        rw [memberTokens, List.cons_append, List.cons_append, List.cons_append, List.append_assoc] at read ⊢
        rw [read_more_members fuel room key value _ _ read,
          read_members members nextKey next (read_value next) fuel room rest (by omega), bounded_map, memberNesting]
  · rw [readMembers, too_deep_item fuel room value _ first (by omega) fits, bounded, if_neg (by omega)]
end

section Written

variable {style : Style} (blank : style.Blank) (document : Json) (readable : document.Readable) (gap : String)
  (gapBlank : ∀ c ∈ gap.toList, isSpace c = true)

include blank readable gapBlank

theorem read_front_written :
    readFront (tokens (write style 0 document ++ gap).toList) =
      bounded document.nesting maxNesting (document, []) := by
  have padding : tokens gap.toList = [] := by
    have skipped := tokens_blank gap.toList [] gapBlank
    rwa [List.append_nil, show tokens [] = [] by rw [tokens]] at skipped
  rw [String.toList_append, tokens_write blank 0 document readable gap.toList (ends_blank gap.toList gapBlank),
    padding, readFront]
  exact read_value document _ _ _ (by simp)

-- A document in print stands for what it stands for itself, unless it has more than 127 brackets open at once. Blanks
-- may follow it.
theorem read_as_written {α : Type} (decode : Json → Except ReadError α) :
    readAs decode (write style 0 document ++ gap) =
      if textNesting (write style 0 document ++ gap) ≤ maxNesting then decode document else .error .malformed := by
  rw [text_nesting_padded blank document readable gap gapBlank, readAs,
    read_front_written blank document readable gap gapBlank]
  by_cases fits : document.nesting ≤ maxNesting
  · rw [if_pos fits, bounded, if_pos fits]
    dsimp only
    cases decode document <;> rfl
  · rw [if_neg fits, bounded, if_neg fits]

end Written

end SqlFilter.Json
