import SqlFilter.Proofs.Json.Compact
import SqlFilter.Proofs.Json.Kinds
import SqlFilter.Proofs.Json.Printed

/-!
# Native whole numbers as values

A whole number that is converted to a value keeps its number on every way there and back, alone or in lists.
-/

set_option autoImplicit false

namespace SqlFilter.Value

/-- The values that native whole numbers become, each with the number that it stands for. -/
inductive OfWord : Value → Int → Prop
  | int32 (x : Int32) : OfWord (ofInt32 x) x.toInt
  | int64 (x : Int64) : OfWord (ofInt64 x) x.toInt
  | uint32 (x : UInt32) : OfWord (ofUInt32 x) x.toNat
  | uint64 (x : UInt64) : OfWord (ofUInt64 x) x.toNat

/-- The one of the two kinds of whole numbers that a number belongs to. -/
def IsWhole (value : Value) (n : Int) : Prop :=
  if n ≤ 9223372036854775807 then ∃ w : Int64, w.toInt = n ∧ value = .int w
  else ∃ w : UInt64, (w.toNat : Int) = n ∧ value = .uint w

/-- What the conversions make of whole numbers, of what may be absent, of lists and of pairs, with the JSON text and
the plain text of the result. Items of any type with a conversion may stand in a list, so lists in lists are in it to
any depth, and lists of what has been converted before. -/
inductive Converted : Value → String → String → Prop
  | word {value : Value} {n : Int} (native : OfWord value n) : Converted value n.repr n.repr
  | absent {α : Type} (convert : α → Value) : Converted (ofOption convert none) "null" "null"
  | present {α : Type} {convert : α → Value} {a : α} {text shown : String} (inner : Converted (convert a) text shown) :
      Converted (ofOption convert (some a)) text shown
  | list {α : Type} {convert : α → Value} {items : List α} {text shown : α → String}
      (each : ∀ a ∈ items, Converted (convert a) (text a) (shown a)) :
      Converted (ofList convert items) ("[" ++ ",".intercalate (items.map text) ++ "]")
        (",".intercalate (items.map shown))
  | pair {low high : Value} {lowText lowShown highText highShown : String} (first : Converted low lowText lowShown)
      (second : Converted high highText highShown) :
      Converted (ofPair low high) ("[" ++ lowText ++ "," ++ highText ++ "]") (lowShown ++ "," ++ highShown)

-- Texts and exactness are all that reading asks of a value.
structure Written (value : Value) (text shown : String) : Prop where
  exact : value.Exact
  text : value.toJsonText = text
  shown : value.display = shown

section Words

theorem IsWhole.word {value : Value} {n : Int} (whole : value.IsWhole n) :
    (∃ w : Int64, w.toInt = n ∧ value = .int w) ∨ ∃ w : UInt64, (w.toNat : Int) = n ∧ value = .uint w := by
  rw [IsWhole] at whole
  split at whole
  · exact .inl whole
  · exact .inr whole

variable {n : Int} (fits : (Number.int n).Fits)

include fits

theorem of_int_whole : (ofInt n).IsWhole n := by
  obtain ⟨lower, upper⟩ := fits
  rw [IsWhole, ofInt]
  by_cases small : n < 9223372036854775808
  · rw [if_pos small, if_pos (by omega)]
    exact ⟨_, Int64.toInt_ofInt_of_le lower small, rfl⟩
  · have size : n.toNat < UInt64.size := by
      simp only [UInt64.size]
      omega
    rw [if_neg small, if_neg (by omega)]
    refine ⟨_, ?_, rfl⟩
    rw [UInt64.toNat_ofNat_of_lt' size]
    omega

theorem of_int_exact : (ofInt n).Exact :=
  of_json_exact (.number (.int n)) fits (by
    rw [ofJson, ofNumber, ofInt]
    split <;> trivial)

theorem of_int_document : (ofInt n).toJson = .number (.int n) := by
  rcases (of_int_whole fits).word with ⟨w, same, value⟩ | ⟨w, same, value⟩
  · rw [value, toJson, same]
  · rw [value, toJson, same]

theorem of_int_written : (ofInt n).Written n.repr n.repr := by
  refine ⟨of_int_exact fits, by rw [toJsonText, of_int_document fits]; rfl, ?_⟩
  rcases (of_int_whole fits).word with ⟨w, rfl, value⟩ | ⟨w, rfl, value⟩
  · rw [value, display]
  · rw [value, display]
    rfl

end Words

-- The four conversions take their own ways, and all come to what a number of that size is read as.
theorem of_word_exact {value : Value} {n : Int} (native : OfWord value n) :
    (Number.int n).Fits ∧ value = ofInt n := by
  cases native with
  | int32 x =>
      have lower := Int32.le_toInt x
      have upper := Int32.toInt_lt x
      refine ⟨⟨by omega, by omega⟩, ?_⟩
      have kept : x.toInt64 = Int64.ofInt x.toInt := by
        rw [← Int64.toInt_inj, Int32.toInt_toInt64, Int64.toInt_ofInt_of_le (by omega) (by omega)]
      rw [ofInt32, ofInt, if_pos (by omega), kept]
  | int64 x =>
      have lower := Int64.le_toInt x
      have upper := Int64.toInt_lt x
      refine ⟨⟨by omega, by omega⟩, ?_⟩
      rw [ofInt64, ofInt, if_pos (by omega), Int64.ofInt_toInt]
  | uint32 x =>
      have upper := UInt32.toNat_lt x
      refine ⟨⟨by omega, by omega⟩, ?_⟩
      rw [ofUInt32, ofInt, if_pos (by omega)]
      rfl
  | uint64 x =>
      have upper := UInt64.toNat_lt x
      refine ⟨⟨by omega, by omega⟩, ?_⟩
      rw [ofUInt64, ofInt]
      by_cases small : x.toNat < 9223372036854775808
      · rw [if_pos small, if_pos (by omega)]
        rfl
      · rw [if_neg small, if_neg (by omega), Int.toNat_natCast, UInt64.ofNat_toNat]

theorem display_array (items : List Value) : (array items).display = ",".intercalate (items.map display) := by
  cases items with
  | nil => rfl
  | cons item items =>
      rw [display, Json.comma_separated display displayRest (by rw [displayRest]) (fun _ _ => by rw [displayRest])]

theorem to_json_text_array (items : List Value) :
    (array items).toJsonText = "[" ++ ",".intercalate (items.map toJsonText) ++ "]" := by
  rw [toJsonText, toJson, Json.compact_array, to_json_items_map, List.map_map]
  rfl

theorem converted_written {value : Value} {text shown : String} (converted : Converted value text shown) :
    value.Written text shown := by
  induction converted with
  | word native =>
      obtain ⟨fits, rfl⟩ := of_word_exact native
      exact of_int_written fits
  | absent convert => exact ⟨trivial, rfl, rfl⟩
  | present _ ih => exact ih
  | @list α convert items text shown each ih =>
      have texts : items.map (fun a => (convert a).toJsonText) = items.map text :=
        List.map_congr_left fun a member => (ih a member).text
      have plain : items.map (fun a => (convert a).display) = items.map shown :=
        List.map_congr_left fun a member => (ih a member).shown
      refine ⟨all_exact_of_mem _ fun item member => ?_, ?_, ?_⟩
      · obtain ⟨a, present, rfl⟩ := List.mem_map.mp member
        exact (ih a present).exact
      · rw [ofList, to_json_text_array, List.map_map, ← texts]
        rfl
      · rw [ofList, display_array, List.map_map, ← plain]
        rfl
  | pair _ _ first second =>
      refine ⟨⟨first.exact, second.exact, trivial⟩, ?_, ?_⟩
      · simp [ofPair, to_json_text_array, first.text, second.text, String.append_assoc]
      · simp [ofPair, display_array, first.shown, second.shown, String.append_assoc]

namespace Written

variable {value : Value} {text shown : String} (written : value.Written text shown)

include written

theorem nesting : Json.textNesting text = value.toJson.nesting := by
  rw [← written.text]
  exact Json.text_nesting_write Json.Style.compact_blank _ (to_json_readable value written.exact)

-- A text that holds the document of a value, in any layout, is read as the value.
theorem read_holding (shallow : Json.textNesting text ≤ 127) (spelled : String)
    (holds : Json.Holds spelled value.toJson) : read spelled = .ok value := by
  have floatFree := to_json_float_free value (float_free_of_exact value written.exact)
  rw [written.nesting] at shallow
  have accepted := Json.holds_read holds floatFree shallow
  rw [read, Json.read_as_of_read _ accepted, Function.comp_apply, of_json_to_json value written.exact]

theorem read_text (shallow : Json.textNesting text ≤ 127) : read text = .ok value := by
  refine written.read_holding shallow text ?_
  have holds := Json.write_holds Json.Style.compact_blank value.toJson (to_json_sized value) "" nofun
  rw [String.append_empty] at holds
  exact written.text ▸ holds

theorem read_deep (deep : 128 ≤ Json.textNesting text) : read text = .error .malformed := by
  have refused := Json.read_as_written Json.Style.compact_blank value.toJson (to_json_readable value written.exact) ""
    nofun (.ok ∘ ofJson)
  have exceeds : ¬ Json.textNesting text ≤ Json.maxNesting := Nat.not_le.mpr deep
  have compact : value.toJson.write .compact 0 = text := written.text
  rwa [String.append_empty, compact, if_neg exceeds] at refused

theorem of_document : ofDocument (Document.ofJson value.toJson) = value := by
  rw [of_document_of_json _ (to_json_sized value), of_json_to_json value written.exact]

end Written

/-- Native whole numbers and those in a JSON text are the same values: each has one kind, and lists, pairs and options
of them are the JSON arrays of the same numbers, whatever the length. A document that has been read may nest to any
depth. A text may have 127 brackets open at once. -/
theorem whole_numbers_agree :
    (∀ n : Int, -9223372036854775808 ≤ n → n < 18446744073709551616 →
      ∃ value, read n.repr = .ok value ∧ value.IsWhole n ∧ (∀ native, OfWord native n → native = value) ∧
        value.display = n.repr ∧ value.toJsonText = n.repr) ∧
      ∀ (value : Value) (text shown : String), Converted value text shown →
        value.toJsonText = text ∧ value.display = shown ∧ ofDocument (Document.ofJson value.toJson) = value ∧
        (Json.textNesting text ≤ 127 →
          read text = .ok value ∧ ∀ spelled, Json.Holds spelled value.toJson → read spelled = .ok value) ∧
        (128 ≤ Json.textNesting text → read text = .error .malformed) := by
  refine ⟨fun n lower upper => ?_, fun value text shown converted => ?_⟩
  · have fits : (Number.int n).Fits := ⟨lower, upper⟩
    have written := of_int_written fits
    have shallow : Json.textNesting n.repr ≤ 127 := by
      rw [written.nesting, of_int_document fits]
      exact Nat.zero_le _
    exact ⟨ofInt n, written.read_text shallow, of_int_whole fits, fun native word => (of_word_exact word).2,
      written.shown, written.text⟩
  · have written := converted_written converted
    exact ⟨written.text, written.shown, written.of_document,
      fun shallow => ⟨written.read_text shallow, written.read_holding shallow⟩, written.read_deep⟩

def pastSigned : Value :=
  ofPair (ofList ofUInt64 [9223372036854775807, 9223372036854775808]) (ofList (ofOption ofInt32) [some (-1), none])

theorem boundary_in_lists :
    (-9223372036854775808 ≤ (9223372036854775808 : Int) ∧ (9223372036854775808 : Int) < 18446744073709551616 ∧
        read "9223372036854775808" = .ok (ofUInt64 9223372036854775808)) ∧
      Converted pastSigned "[[9223372036854775807,9223372036854775808],[-1,null]]"
        "9223372036854775807,9223372036854775808,-1,null" ∧
      read "[[9223372036854775807,9223372036854775808],[-1,null]]" = .ok pastSigned := by
  have words : Converted (ofList ofUInt64 [9223372036854775807, 9223372036854775808])
      "[9223372036854775807,9223372036854775808]" "9223372036854775807,9223372036854775808" :=
    .list fun x _ => .word (.uint64 x)
  have perhaps : Converted (ofList (ofOption ofInt32) [some (-1), none]) "[-1,null]" "-1,null" := by
    have each : ∀ x ∈ [some (-1), none], Converted (ofOption ofInt32 x) (x.elim "null" fun w => w.toInt.repr)
        (x.elim "null" fun w => w.toInt.repr) := by
      intro x _
      cases x with
      | none => exact .absent ofInt32
      | some w => exact .present (.word (.int32 w))
    exact .list each
  have converted := Converted.pair words perhaps
  obtain ⟨one, nested⟩ := whole_numbers_agree
  obtain ⟨value, accepted, _, same, _⟩ := one 9223372036854775808 (by decide) (by decide)
  obtain ⟨_, _, _, shallow, _⟩ := nested pastSigned _ _ converted
  have word : ofUInt64 9223372036854775808 = value := same _ (.uint64 9223372036854775808)
  exact ⟨⟨by decide, by decide, word ▸ accepted⟩, converted, (shallow (by decide +kernel)).1⟩

-- The number one in lists in lists.
def inLists : Nat → Value
  | 0 => ofInt32 1
  | depth + 1 => ofList id [inLists depth]

def inListsText : Nat → String
  | 0 => "1"
  | depth + 1 => "[" ++ inListsText depth ++ "]"

theorem in_lists_converted (depth : Nat) : Converted (inLists depth) (inListsText depth) "1" := by
  induction depth with
  | zero => exact .word (.int32 1)
  | succ depth ih =>
      have each : ∀ value ∈ [inLists depth], Converted (id value) (inListsText depth) "1" := by
        intro value member
        rwa [List.mem_singleton.mp member]
      exact .list each

theorem in_lists_nesting (depth : Nat) : (inLists depth).toJson.nesting = depth := by
  induction depth with
  | zero => rfl
  | succ depth ih =>
      have inner : (inLists (depth + 1)).toJson = .array [(inLists depth).toJson] := rfl
      rw [inner, Json.nesting, Json.itemNesting, Json.itemNesting, ih]
      omega

-- Lists may be converted to any depth, but a text of 128 lists in each other is not JSON to the reader.
theorem deep_list_not_read :
    Converted (inLists 128) (inListsText 128) "1" ∧ read (inListsText 128) = .error .malformed := by
  have converted := in_lists_converted 128
  have written := converted_written converted
  have deep : Json.textNesting (inListsText 128) = 128 := by
    rw [written.nesting, in_lists_nesting]
  exact ⟨converted, written.read_deep (Nat.le_of_eq deep.symm)⟩

end SqlFilter.Value
