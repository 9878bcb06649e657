import SqlFilter.Proofs.Json.Doubles
import SqlFilter.Proofs.Json.Numbers
import SqlFilter.Proofs.Json.Phrase

/-!
# What printed texts tell

The text that a filter is printed as is a phrase with the same values in it, so what reading does to printed texts
follows from what it does to phrases.
-/

set_option autoImplicit false

namespace SqlFilter

open Decimal (Numeral RoundsTo parts)

namespace Phrase

-- A phrase that says what a document holds. For a double it has any numeral that is rounded to it; what is no finite
-- number has none.
mutual
inductive Tells : Phrase → Json → Prop
  | null : Tells .null .null
  | bool (b : Bool) : Tells (.bool b) (.bool b)
  | string (s : String) : Tells (.string (some s)) (.string s)
  | int (n : Int) : Tells (.number (some (.int n))) (.number (.int n))
  | double {x : Float} {negative : Bool} {m : Nat} {q : Int} {numeral : Numeral}
      (finite : parts x = .finite negative m q) (signed : numeral.negative = negative)
      (rounds : RoundsTo m q numeral.magnitude) : Tells (.number (Number.ofNumeral? numeral)) (.number (.float x))
  | unbounded {x : Float} (noNumber : ∀ negative m q, parts x ≠ .finite negative m q) :
      Tells .null (.number (.float x))
  | array {phrases : List Phrase} {items : List Json} (each : AllTell phrases items) :
      Tells (.array phrases) (.array items)
  | object {phrases : List (Option String × Phrase)} {members : List (String × Json)}
      (each : MembersTell phrases members) : Tells (.object phrases) (.object members)
inductive AllTell : List Phrase → List Json → Prop
  | nil : AllTell [] []
  | cons {phrase : Phrase} {item : Json} {phrases : List Phrase} {items : List Json} (first : Tells phrase item)
      (more : AllTell phrases items) : AllTell (phrase :: phrases) (item :: items)
inductive MembersTell : List (Option String × Phrase) → List (String × Json) → Prop
  | nil : MembersTell [] []
  | cons (key : String) {phrase : Phrase} {value : Json} {phrases : List (Option String × Phrase)}
      {members : List (String × Json)} (first : Tells phrase value) (more : MembersTell phrases members) :
      MembersTell ((some key, phrase) :: phrases) ((key, value) :: members)
end

mutual
theorem told_nesting {phrase : Phrase} {document : Json} (tells : phrase.Tells document) :
    phrase.document.nesting = document.nesting := by
  cases tells with
  | null | bool b | string s | int n | unbounded noNumber => rfl
  | @double x negative m q numeral finite signed rounds => cases Number.ofNumeral? numeral <;> rfl
  | array each => rw [Phrase.document, Json.nesting, Json.nesting, told_item_nesting each]
  | object each => rw [Phrase.document, Json.nesting, Json.nesting, told_member_nesting each]
theorem told_item_nesting {phrases : List Phrase} {items : List Json} (each : AllTell phrases items) :
    Json.itemNesting (documents phrases) = Json.itemNesting items := by
  cases each with
  | nil => rfl
  | cons first more =>
      rw [documents, Json.itemNesting, Json.itemNesting, told_nesting first, told_item_nesting more]
theorem told_member_nesting {phrases : List (Option String × Phrase)} {members : List (String × Json)}
    (each : MembersTell phrases members) :
    Json.memberNesting (memberDocuments phrases) = Json.memberNesting members := by
  cases each with
  | nil => rfl
  | cons key first more =>
      rw [memberDocuments, Json.memberNesting, Json.memberNesting, told_nesting first, told_member_nesting more]
end

-- Without doubles there is but one phrase for a document.
mutual
theorem told_exactly {phrase : Phrase} {document : Json} (tells : phrase.Tells document)
    (floatFree : document.FloatFree) : phrase = ofJson document := by
  cases tells with
  | null | bool b | string s | int n => rfl
  | double finite signed rounds => exact floatFree.elim
  | unbounded noNumber => exact floatFree.elim
  | array each => rw [ofJson, told_items_exactly each floatFree]
  | object each => rw [ofJson, told_members_exactly each floatFree]
theorem told_items_exactly {phrases : List Phrase} {items : List Json} (each : AllTell phrases items)
    (floatFree : Json.ItemsFloatFree items) : phrases = ofItems items := by
  cases each with
  | nil => rfl
  | cons first more => rw [ofItems, told_exactly first floatFree.1, told_items_exactly more floatFree.2]
theorem told_members_exactly {phrases : List (Option String × Phrase)} {members : List (String × Json)}
    (each : MembersTell phrases members) (floatFree : Json.MembersFloatFree members) : phrases = ofMembers members := by
  cases each with
  | nil => rfl
  | cons key first more => rw [ofMembers, told_exactly first floatFree.1, told_members_exactly more floatFree.2]
end

end Phrase

namespace Json

/-- A text of JSON that holds a document, whatever white space it has and whichever numerals. -/
def Holds (text : String) (document : Json) : Prop :=
  ∃ phrase : Phrase, phrase.Tells document ∧ Lexes phrase.tokens text.toList

theorem holds_read {text : String} {document : Json} (holds : Holds text document) (floatFree : document.FloatFree)
    (fits : document.nesting ≤ maxNesting) : read text = .ok document := by
  obtain ⟨phrase, tells, spelled⟩ := holds
  obtain ⟨wellFormed, same⟩ := Phrase.of_json_exact document
  rw [← Phrase.told_exactly tells floatFree] at wellFormed same
  rw [← Phrase.told_nesting tells] at fits
  rw [read, Phrase.read_as_spelled .ok spelled fits, if_pos wellFormed, same]

section Lexing

variable {ks : List Token} {rest : List Char}

theorem tight : Blank [] :=
  nofun

theorem lexes_next {text : List Char} {token : Token} (lexeme : Lexeme text token) (more : Lexes ks rest) :
    Lexes (token :: ks) (text ++ rest) :=
  .next tight lexeme more

theorem lexes_numeral {text : List Char} {token : Token} (lexeme : NumberLexeme text token) (ends : Ends rest)
    (more : Lexes ks rest) : Lexes (token :: ks) (text ++ rest) :=
  .number tight lexeme ends more

theorem lexes_mark (c : Char) (token : Token) (listed : punctuation.lookup c = some token) (more : Lexes ks rest) :
    Lexes (token :: ks) (c :: rest) :=
  lexes_next (.mark listed) more

theorem lexes_quote (s : String) (more : Lexes ks rest) : Lexes (.string s :: ks) ((quote s).toList ++ rest) := by
  have scanned := scan_string_escaped s.toList []
  have lexeme := Lexeme.string scanned
  rw [String.ofList_toList] at lexeme
  rw [quote, String.toList_ofList, List.cons_append]
  exact lexes_next lexeme more

theorem int_scanned {n : Int} (fits : (Number.int n).Fits) :
    ∃ numeral, scanNumeral (Number.int n).write.toList = .ok (numeral, []) ∧
      Number.ofNumeral? numeral = some (.int n) := by
  cases n with
  | ofNat n =>
      have small : n < 18446744073709551616 := Int.ofNat_lt.mp fits.2
      refine ⟨_, ?_, Number.of_numeral_natural n small⟩
      have scanned := scan_numeral_natural n [] nofun
      rw [List.append_nil] at scanned
      simpa [Number.write, Int.repr, Nat.toList_repr] using scanned
  | negSucc n =>
      have small : n + 1 ≤ 9223372036854775808 := by
        have lower := fits.1
        omega
      refine ⟨_, ?_, Number.of_numeral_negative (n + 1) (Nat.succ_ne_zero n) small⟩
      have scanned := scan_unsigned_exact true (n + 1) [] nofun
      rw [List.append_nil] at scanned
      simpa [Number.write, Int.repr, Nat.toList_repr, scanNumeral] using scanned

theorem lexes_int {n : Int} (fits : (Number.int n).Fits) (ends : Ends rest) (more : Lexes ks rest) :
    Lexes (.number (.int n) :: ks) ((Number.int n).write.toList ++ rest) := by
  obtain ⟨numeral, scanned, value⟩ := int_scanned fits
  exact lexes_numeral (.value scanned value) ends more

theorem lexes_double {x : Float} {numeral : Numeral}
    (scanned : scanNumeral (Number.float x).write.toList = .ok (numeral, [])) (ends : Ends rest)
    (more : Lexes ks rest) :
    Lexes (.ofNumber (Number.ofNumeral? numeral) :: ks) ((Number.float x).write.toList ++ rest) := by
  cases value : Number.ofNumeral? numeral with
  | some n => exact lexes_numeral (.value scanned value) ends more
  | none => exact lexes_numeral (.tooLarge scanned value) ends more

theorem lexes_key {style : Style} (blank : style.Blank) (depth : Nat) (key : String) (more : Lexes ks rest) :
    Lexes (.string key :: .colon :: ks)
      ((style.lineBreak depth).toList ++ ((quote key).toList ++ (style.colon.toList ++ rest))) := by
  obtain ⟨gap, colon, gapBlank⟩ := blank.colon
  rw [colon]
  exact lexes_blank (blank.lineBreak depth)
    (lexes_quote key (lexes_mark ':' .colon rfl (lexes_blank gapBlank more)))

end Lexing

-- A text that is a phrase, whatever comes after it.
def Writes (text : String) (phrase : Phrase) : Prop :=
  ∀ ks rest, Ends rest → Lexes ks rest → Lexes (phrase.tokens ++ ks) (text.toList ++ rest)

theorem null_written : Writes "null" .null :=
  fun _ _ _ more => lexes_next .null more

theorem double_written (x : Float) :
    ∃ phrase : Phrase, phrase.Tells (.number (.float x)) ∧ Writes (Number.float x).write phrase := by
  cases taken : parts x with
  | nan =>
      have text : (Number.float x).write = "null" := by
        rw [Number.write, Decimal.Layout.write, taken]
        rfl
      exact ⟨.null, .unbounded (by simp [taken]), text ▸ null_written⟩
  | infinite negative =>
      have text : (Number.float x).write = "null" := by
        rw [Number.write, Decimal.Layout.write, taken]
        rfl
      exact ⟨.null, .unbounded (by simp [taken]), text ▸ null_written⟩
  | finite negative m q =>
      obtain ⟨numeral, scanned, signed, rounds⟩ := double_scanned taken
      refine ⟨.number (Number.ofNumeral? numeral), .double taken signed rounds, fun ks rest ends more => ?_⟩
      rw [Phrase.tokens]
      exact lexes_double scanned ends more

section Writing

variable {style : Style} (blank : style.Blank)

include blank

mutual
theorem write_told (depth : Nat) (document : Json) (sized : document.Sized) :
    ∃ phrase : Phrase, phrase.Tells document ∧ Writes (write style depth document) phrase := by
  cases document with
  | null =>
      rw [write]
      exact ⟨.null, .null, null_written⟩
  | bool b =>
      refine ⟨.bool b, .bool b, fun ks rest _ more => ?_⟩
      cases b <;> rw [write]
      · exact lexes_next .no more
      · exact lexes_next .yes more
  | number n =>
      cases n with
      | int n => exact ⟨.number (some (.int n)), .int n, fun ks rest ends more => lexes_int sized ends more⟩
      | float x => exact double_written x
  | string s => exact ⟨.string (some s), .string s, fun ks rest _ more => lexes_quote s more⟩
  | array items =>
      cases items with
      | nil =>
          refine ⟨.array [], .array .nil, fun ks rest _ more => ?_⟩
          rw [write, Phrase.tokens]
          exact lexes_mark '[' _ rfl (lexes_mark ']' _ rfl more)
      | cons item items =>
          obtain ⟨first, told, written⟩ := write_told (depth + 1) item sized.1
          obtain ⟨others, toldOthers, writtenOthers⟩ := write_items_told (depth + 1) items sized.2
          refine ⟨.array (first :: others), .array (.cons told toldOthers), fun ks rest _ more => ?_⟩
          have tail := writtenOthers ks (style.lineBreak depth).toList rest (blank.lineBreak depth) more
          have ends := ends_items style (depth + 1) rest items _ (blank.lineBreak depth)
          rw [array_chars, Phrase.tokens, List.cons_append, List.append_assoc]
          exact lexes_mark '[' _ rfl (lexes_blank (blank.lineBreak (depth + 1)) (written _ _ ends tail))
  | object members =>
      cases members with
      | nil =>
          refine ⟨.object [], .object .nil, fun ks rest _ more => ?_⟩
          rw [write, Phrase.tokens]
          exact lexes_mark '{' _ rfl (lexes_mark '}' _ rfl more)
      | cons member members =>
          obtain ⟨key, value⟩ := member
          obtain ⟨first, told, written⟩ := write_told (depth + 1) value sized.1
          obtain ⟨others, toldOthers, writtenOthers⟩ := write_members_told (depth + 1) members sized.2
          refine ⟨.object ((some key, first) :: others), .object (.cons key told toldOthers), fun ks rest _ more => ?_⟩
          have tail := writtenOthers ks (style.lineBreak depth).toList rest (blank.lineBreak depth) more
          have ends := ends_members style (depth + 1) rest members _ (blank.lineBreak depth)
          rw [object_chars, Phrase.tokens, List.cons_append, List.cons_append, List.cons_append, List.append_assoc]
          exact lexes_mark '{' _ rfl (lexes_key blank (depth + 1) key (written _ _ ends tail))
theorem write_items_told (depth : Nat) (items : List Json) (sized : AllSized items) :
    ∃ phrases : List Phrase, Phrase.AllTell phrases items ∧ ∀ ks gap rest, Blank gap → Lexes ks rest →
      Lexes (Phrase.itemTokens phrases ++ ks) ((writeItems style depth items).toList ++ (gap ++ ']' :: rest)) := by
  cases items with
  | nil =>
      refine ⟨[], .nil, fun ks gap rest gapBlank more => ?_⟩
      rw [writeItems, Phrase.itemTokens, String.toList_empty, List.nil_append]
      exact lexes_blank gapBlank (lexes_mark ']' _ rfl more)
  | cons item items =>
      obtain ⟨first, told, written⟩ := write_told depth item sized.1
      obtain ⟨others, toldOthers, writtenOthers⟩ := write_items_told depth items sized.2
      refine ⟨first :: others, .cons told toldOthers, fun ks gap rest gapBlank more => ?_⟩
      have tail := writtenOthers ks gap rest gapBlank more
      have ends := ends_items style depth rest items gap gapBlank
      rw [items_chars, Phrase.itemTokens, List.cons_append, List.append_assoc]
      exact lexes_mark ',' _ rfl (lexes_blank (blank.lineBreak depth) (written _ _ ends tail))
theorem write_members_told (depth : Nat) (members : List (String × Json)) (sized : MembersSized members) :
    ∃ phrases : List (Option String × Phrase), Phrase.MembersTell phrases members ∧
      ∀ ks gap rest, Blank gap → Lexes ks rest →
        Lexes (Phrase.memberTokens phrases ++ ks)
          ((writeMembers style depth members).toList ++ (gap ++ '}' :: rest)) := by
  cases members with
  | nil =>
      refine ⟨[], .nil, fun ks gap rest gapBlank more => ?_⟩
      rw [writeMembers, Phrase.memberTokens, String.toList_empty, List.nil_append]
      exact lexes_blank gapBlank (lexes_mark '}' _ rfl more)
  | cons member members =>
      obtain ⟨key, value⟩ := member
      obtain ⟨first, told, written⟩ := write_told depth value sized.1
      obtain ⟨others, toldOthers, writtenOthers⟩ := write_members_told depth members sized.2
      refine ⟨(some key, first) :: others, .cons key told toldOthers, fun ks gap rest gapBlank more => ?_⟩
      have tail := writtenOthers ks gap rest gapBlank more
      have ends := ends_members style depth rest members gap gapBlank
      rw [members_chars, Phrase.memberTokens, List.cons_append, List.cons_append, List.cons_append, List.append_assoc]
      exact lexes_mark ',' _ rfl (lexes_key blank depth key (written _ _ ends tail))
end

-- What is written holds the document, with blanks after it as well.
theorem write_holds (document : Json) (sized : document.Sized) (gap : String) (gapBlank : Blank gap.toList) :
    Holds (write style 0 document ++ gap) document := by
  obtain ⟨phrase, tells, written⟩ := write_told blank 0 document sized
  have spelled := written [] gap.toList (ends_blank _ gapBlank) (.done gapBlank)
  rw [List.append_nil] at spelled
  exact ⟨phrase, tells, by rwa [String.toList_append]⟩

end Writing

mutual
theorem sized_of_canonical (document : Json) (canonical : document.IsCanonical) : document.Sized := by
  cases document with
  | null | bool b | string s => trivial
  | number n => exact canonical
  | array items => exact items_sized_of_canonical items canonical
  | object members => exact members_sized_of_canonical members canonical.2
theorem items_sized_of_canonical (items : List Json) (canonical : AreCanonical items) : AllSized items := by
  cases items with
  | nil => trivial
  | cons item items =>
      exact ⟨sized_of_canonical item canonical.1, items_sized_of_canonical items canonical.2⟩
theorem members_sized_of_canonical (members : List (String × Json)) (canonical : HasCanonical members) :
    MembersSized members := by
  cases members with
  | nil => trivial
  | cons member members =>
      exact ⟨sized_of_canonical member.2 canonical.1, members_sized_of_canonical members canonical.2⟩
end

end Json

namespace Value

mutual
theorem to_json_sized (value : Value) : value.toJson.Sized := by
  cases value with
  | null | bool b | string s | float x => trivial
  | int n =>
      have lower := Int64.le_toInt n
      have upper := Int64.toInt_lt n
      exact ⟨lower, by omega⟩
  | uint n =>
      have upper := UInt64.toNat_lt n
      exact ⟨by omega, by omega⟩
  | array items => exact to_json_items_sized items
  | object o => exact Json.sized_of_canonical o.toJson o.canonical
theorem to_json_items_sized (items : List Value) : Json.AllSized (toJsonItems items) := by
  cases items with
  | nil => trivial
  | cons item items => exact ⟨to_json_sized item, to_json_items_sized items⟩
end

mutual
theorem to_json_float_free (value : Value) (floatFree : value.FloatFree) : value.toJson.FloatFree := by
  cases value with
  | null | bool b | string s | int n | uint n => trivial
  | float x => exact floatFree.elim
  | array items => exact to_json_items_float_free items floatFree
  | object o => exact floatFree
theorem to_json_items_float_free (items : List Value) (floatFree : AllFloatFree items) :
    Json.ItemsFloatFree (toJsonItems items) := by
  cases items with
  | nil => trivial
  | cons item items =>
      exact ⟨to_json_float_free item floatFree.1, to_json_items_float_free items floatFree.2⟩
end

end Value

end SqlFilter
