import SqlFilter.Proofs.Json.Numbers

/-!
# Two ways to read a value

A value is read from JSON by trying the kinds of values in turn, over the text or over its canonical document. Both come
to the same.
-/

set_option autoImplicit false

namespace SqlFilter

theorem Number.wrap_fitting (n : Number) (fits : n.Fits) : n.wrap = n := by
  cases n with
  | int n => exact wrap_fits n fits
  | float x => rfl

namespace Json

-- What stands at the front of a text has numbers of 64 bits, whatever comes after it.
theorem front_sized {text : String} {document : Json} {rest : List Token}
    (front : readFront (tokens text.toList) = .ok (document, rest)) : document.Sized := by
  have consumed := ((read_sound _).1 _ _ _ _ front).1
  refine sized_of_tokens document fun token member => tokens_sized text.toList token ?_
  rw [consumed]
  exact List.mem_append_left rest member

theorem read_as_congr {α : Type} (decode other : Json → Except ReadError α) (text : String)
    (agree : ∀ document : Json, document.Sized → decode document = other document) :
    readAs decode text = readAs other text := by
  unfold readAs
  split
  · rfl
  · rename_i document rest front
    rw [agree document (front_sized front)]

theorem read_as_map {α β : Type} (decode : Json → Except ReadError α) (convert : α → β) (text : String) :
    (readAs decode text).map convert = readAs (fun document => (decode document).map convert) text := by
  unfold readAs
  split
  · rfl
  · rename_i document rest front
    dsimp only
    cases decode document with
    | error e => rfl
    | ok a => cases finished : rest.isEmpty <;> rfl

end Json

namespace Value

-- The kinds of values, each with the documents that it takes. Every kind of number takes the whole numbers that it has
-- room for, so that most of them are taken by three.
def null? : Json → Option Value
  | .null => some .null
  | _ => none

def bool? : Json → Option Value
  | .bool b => some (.bool b)
  | _ => none

def int? : Json → Option Value
  | .number (.int n) =>
      if -9223372036854775808 ≤ n ∧ n < 9223372036854775808 then some (.int (Int64.ofInt n)) else none
  | _ => none

def uint? : Json → Option Value
  | .number (.int n) => if 0 ≤ n ∧ n < 18446744073709551616 then some (.uint (UInt64.ofNat n.toNat)) else none
  | _ => none

def float? : Json → Option Value
  | .number (.int n) => some (.float (Float.ofInt n))
  | .number (.float x) => some (.float x)
  | _ => none

def string? : Json → Option Value
  | .string s => some (.string s)
  | _ => none

def object? : Json → Option Value
  | .object members => some (.object (.ofMembers members))
  | _ => none

mutual
-- The value of a document as the first kind that takes it has it. The items of an array are tried in the same way.
def firstKind? (document : Json) : Option Value :=
  null? document <|> bool? document <|> int? document <|> uint? document <|> float? document <|> string? document <|>
    (match document with
      | .array items => (firstKinds? items).map .array
      | _ => none) <|>
    object? document
def firstKinds? : List Json → Option (List Value)
  | [] => some []
  | item :: items =>
      match firstKind? item, firstKinds? items with
      | some value, some values => some (value :: values)
      | _, _ => none
end

def firstKind (document : Json) : Except Json.ReadError Value :=
  match firstKind? document with
  | some value => .ok value
  | none => .error (.mismatch "data did not match any variant of untagged enum Value")

theorem first_kind_number (n : Number) (fits : n.Fits) : firstKind? (.number n) = some (ofNumber n) := by
  cases n with
  | float x => rfl
  | int n =>
      obtain ⟨lower, upper⟩ := fits
      by_cases small : n < 9223372036854775808
      · have taken : int? (.number (.int n)) = some (ofNumber (.int n)) := by
          rw [int?, if_pos ⟨lower, small⟩, ofNumber, ofInt, if_pos small]
        unfold firstKind?
        rw [taken]
        rfl
      · have passed : int? (.number (.int n)) = none := by
          rw [int?, if_neg fun room => small room.2]
        have taken : uint? (.number (.int n)) = some (ofNumber (.int n)) := by
          rw [uint?, if_pos ⟨by omega, upper⟩, ofNumber, ofInt, if_neg small]
        unfold firstKind?
        rw [passed, taken]
        rfl

mutual
theorem first_kind_of_json (document : Json) (sized : document.Sized) :
    firstKind? document = some (ofJson document) := by
  cases document with
  | null | bool b | string s | object members => rfl
  | number n => exact first_kind_number n sized
  | array items =>
      rw [firstKind?, first_kinds_of_json items sized]
      rfl
theorem first_kinds_of_json (items : List Json) (sized : Json.AllSized items) :
    firstKinds? items = some (ofJsonItems items) := by
  cases items with
  | nil => rfl
  | cons item items => rw [firstKinds?, first_kind_of_json item sized.1, first_kinds_of_json items sized.2, ofJsonItems]
end

-- Bringing the members of objects in order, at any depth, is what reading a value does to them as well.
mutual
theorem of_canonical_canonical (document : Json) (sized : document.Sized)
    (canonical : document.canonical.IsCanonical) : ofCanonical document.canonical canonical = ofJson document := by
  cases document with
  | null | bool b | string s | object members => rfl
  | number n =>
      have kept : ofNumber n.wrap = ofNumber n := by rw [Number.wrap_fitting n sized]
      exact kept
  | array items => exact congrArg Value.array (of_canonical_items_canonical items sized canonical)
theorem of_canonical_items_canonical (items : List Json) (sized : Json.AllSized items)
    (canonical : Json.AreCanonical (Json.canonicalItems items)) :
    ofCanonicalItems (Json.canonicalItems items) canonical = ofJsonItems items := by
  cases items with
  | nil => rfl
  | cons item items =>
      have head := of_canonical_canonical item sized.1 canonical.1
      have tail := of_canonical_items_canonical items sized.2 canonical.2
      exact List.cons_eq_cons.mpr ⟨head, tail⟩
end

theorem of_document_of_json (document : Json) (sized : document.Sized) :
    ofDocument (Document.ofJson document) = ofJson document :=
  of_canonical_canonical document sized _

/-- A value can be read by trying the kinds of values in their order on the text as it stands, doubled members
included, or by converting a document in which the last of doubled members has been kept already. There is no
difference: both give one value, or fail for one reason. -/
theorem readings_agree (text : String) :
    Json.readAs firstKind text = (Document.read text).map ofDocument ∧ Json.readAs firstKind text = read text := by
  have tried : Json.readAs firstKind text = read text :=
    Json.read_as_congr _ _ text fun document sized => by
      rw [firstKind, first_kind_of_json document sized]
      rfl
  have converted : (Document.read text).map ofDocument = read text := by
    rw [Document.read, Json.read_as_map]
    exact Json.read_as_congr _ _ text fun document sized =>
      congrArg Except.ok (of_document_of_json document sized)
  exact ⟨tried.trans converted.symm, tried⟩

end Value

end SqlFilter
