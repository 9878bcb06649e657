import SqlFilter.Proofs.Json.Reading

/-!
# Readers account for their tokens

What the readers return accounts for every token that they consume, and keeps within the brackets they may open.
-/

set_option autoImplicit false

namespace SqlFilter.Json

def SoundValue (read : Nat → List Token → Except ReadError (Json × List Token)) : Prop :=
  ∀ room tokens document rest, read room tokens = .ok (document, rest) →
    tokens = document.toTokens ++ rest ∧ document.nesting ≤ room

def SoundItems (read : Nat → List Token → Except ReadError (List Json × List Token)) : Prop :=
  ∀ room tokens all rest, read room tokens = .ok (all, rest) →
    ∃ item items, all = item :: items ∧ tokens = item.toTokens ++ (itemTokens items ++ rest) ∧ itemNesting all ≤ room

def SoundMembers (read : Nat → List Token → Except ReadError (List (String × Json) × List Token)) : Prop :=
  ∀ room tokens all rest, read room tokens = .ok (all, rest) →
    ∃ key value members, all = (key, value) :: members ∧
      tokens = .string key :: .colon :: (value.toTokens ++ (memberTokens members ++ rest)) ∧ memberNesting all ≤ room

section Step

variable {fuel : Nat}

theorem array_sound (items : SoundItems (readItems fuel)) (room : Nat) (tokens : List Token) (document : Json)
    (rest : List Token) (read : readValue (fuel + 1) room (.openArray :: tokens) = .ok (document, rest)) :
    .openArray :: tokens = document.toTokens ++ rest ∧ document.nesting ≤ room := by
  unfold readValue at read
  dsimp only at read
  split at read
  · cases read
  · cases read
    exact ⟨rfl, by rw [nesting, itemNesting]; omega⟩
  · split at read
    · rename_i room all after inner
      cases read
      obtain ⟨item, others, rfl, rfl, shallow⟩ := items _ _ _ _ inner
      refine ⟨by simp [toTokens], ?_⟩
      rw [nesting]
      omega
    · cases read

theorem object_sound (members : SoundMembers (readMembers fuel)) (room : Nat) (tokens : List Token) (document : Json)
    (rest : List Token) (read : readValue (fuel + 1) room (.openObject :: tokens) = .ok (document, rest)) :
    .openObject :: tokens = document.toTokens ++ rest ∧ document.nesting ≤ room := by
  unfold readValue at read
  dsimp only at read
  split at read
  · cases read
  · cases read
    exact ⟨rfl, by rw [nesting, memberNesting]; omega⟩
  · split at read
    · rename_i room all after inner
      cases read
      obtain ⟨key, value, others, rfl, rfl, shallow⟩ := members _ _ _ _ inner
      refine ⟨by simp [toTokens], ?_⟩
      rw [nesting]
      omega
    · cases read

theorem value_sound (items : SoundItems (readItems fuel)) (members : SoundMembers (readMembers fuel)) :
    SoundValue (readValue (fuel + 1)) := by
  intro room tokens document rest read
  cases tokens with
  | nil => cases read
  | cons token tokens =>
      cases token with
      | closeArray | closeObject | comma | colon | brokenString e | broken e => cases read
      | null | bool b | number n | string s =>
          cases read
          exact ⟨rfl, Nat.zero_le room⟩
      | openArray => exact array_sound items room tokens document rest read
      | openObject => exact object_sound members room tokens document rest read

variable (value : SoundValue (readValue fuel))

include value

theorem items_sound (items : SoundItems (readItems fuel)) : SoundItems (readItems (fuel + 1)) := by
  intro room tokens all rest read
  unfold readItems at read
  split at read
  · cases read
  · rename_i item after first
    cases read
    obtain ⟨rfl, shallow⟩ := value _ _ _ _ first
    exact ⟨item, [], rfl, rfl, by rw [itemNesting, itemNesting]; omega⟩
  · rename_i item after first
    obtain ⟨rfl, shallow⟩ := value _ _ _ _ first
    split at read
    · rename_i others left more
      cases read
      obtain ⟨next, others, rfl, rfl, othersShallow⟩ := items _ _ _ _ more
      refine ⟨item, next :: others, rfl, by simp [itemTokens], ?_⟩
      rw [itemNesting]
      omega
    · cases read
  · cases read
  · cases read

theorem members_sound (members : SoundMembers (readMembers fuel)) : SoundMembers (readMembers (fuel + 1)) := by
  intro room tokens all rest read
  unfold readMembers at read
  split at read
  · rename_i key after
    split at read
    · cases read
    · rename_i item after first
      cases read
      obtain ⟨rfl, shallow⟩ := value _ _ _ _ first
      exact ⟨key, item, [], rfl, rfl, by rw [memberNesting, memberNesting]; omega⟩
    · rename_i item after first
      obtain ⟨rfl, shallow⟩ := value _ _ _ _ first
      split at read
      · rename_i others left more
        cases read
        obtain ⟨nextKey, next, others, rfl, rfl, othersShallow⟩ := members _ _ _ _ more
        refine ⟨key, item, (nextKey, next) :: others, rfl, by simp [memberTokens], ?_⟩
        rw [memberNesting]
        omega
      · cases read
    · cases read
    · cases read
  · cases read
  · cases read
  · cases read
  · cases read

end Step

theorem read_sound (fuel : Nat) :
    SoundValue (readValue fuel) ∧ SoundItems (readItems fuel) ∧ SoundMembers (readMembers fuel) := by
  induction fuel with
  | zero => exact ⟨nofun, nofun, nofun⟩
  | succ fuel ih =>
      obtain ⟨value, items, members⟩ := ih
      exact ⟨value_sound items members, items_sound value items, members_sound value members⟩

-- A text that is read consists of the tokens of one document, with no more than 127 brackets open at once.
theorem read_text_sound {text : String} {document : Json} (accepted : read text = .ok document) :
    tokens text.toList = document.toTokens ∧ document.nesting ≤ maxNesting := by
  unfold read readAs at accepted
  split at accepted
  · cases accepted
  · rename_i first rest front
    obtain ⟨consumed, shallow⟩ := (read_sound _).1 _ _ _ _ front
    dsimp only at accepted
    split at accepted
    · rename_i finished
      cases accepted
      rw [List.isEmpty_iff.mp finished, List.append_nil] at consumed
      exact ⟨consumed, shallow⟩
    · cases accepted

theorem read_of_read_as {α : Type} {decode : Json → Except ReadError α} {text : String} {a : α}
    (accepted : readAs decode text = .ok a) : ∃ document, read text = .ok document ∧ decode document = .ok a := by
  unfold readAs at accepted
  split at accepted
  · cases accepted
  · rename_i document rest front
    split at accepted
    · cases accepted
    · rename_i b decoded
      split at accepted
      · rename_i finished
        cases accepted
        exact ⟨document, by simp [read, readAs, front, finished], decoded⟩
      · cases accepted

theorem read_as_of_read {α : Type} (decode : Json → Except ReadError α) {text : String} {document : Json}
    (accepted : read text = .ok document) : readAs decode text = decode document := by
  unfold read readAs at accepted
  split at accepted
  · cases accepted
  · rename_i first rest front
    dsimp only at accepted
    split at accepted
    · rename_i finished
      cases accepted
      rw [readAs, front]
      dsimp only
      cases decode document with
      | error e => rfl
      | ok a => exact if_pos finished
    · cases accepted

end SqlFilter.Json
