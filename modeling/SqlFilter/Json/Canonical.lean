import SqlFilter.Json.Basic

/-!
Canonical documents: the keys of every object in strictly rising order, so none is doubled, and whole numbers within
64 bits. `canonical` gives the canonical form of a document, in which the last of doubled keys wins; `JsonObject` is an
object in that form.
-/

set_option autoImplicit false

namespace SqlFilter

namespace Number

def Fits : Number → Prop
  | .int n => -9223372036854775808 ≤ n ∧ n < 18446744073709551616
  | .float _ => True

def wrap : Number → Number
  | .int n => .int (if n < 9223372036854775808 then (Int64.ofInt n).toInt else (UInt64.ofNat n.toNat).toNat)
  | .float x => .float x

theorem fits_wrap (n : Number) : n.wrap.Fits := by
  cases n with
  | float x => trivial
  | int n =>
      by_cases small : n < 9223372036854775808
      · have lower := Int64.le_toInt (Int64.ofInt n)
        have upper := Int64.toInt_lt (Int64.ofInt n)
        simp only [wrap, Fits, if_pos small]
        omega
      · have upper := UInt64.toNat_lt (UInt64.ofNat n.toNat)
        simp only [wrap, Fits, if_neg small]
        omega

end Number

namespace Json

def place {α : Type} (key : String) (value : α) : List (String × α) → List (String × α)
  | [] => [(key, value)]
  | (k, v) :: rest =>
      if key < k then (key, value) :: (k, v) :: rest
      else if key = k then (k, v) :: rest
      else (k, v) :: place key value rest

mutual
-- A document with the members of its objects in order, the last of doubled keys kept, and its numbers as they fit.
def canonical : Json → Json
  | .null => .null
  | .bool b => .bool b
  | .number n => .number n.wrap
  | .string s => .string s
  | .array items => .array (canonicalItems items)
  | .object members => .object (canonicalMembers members)

def canonicalItems : List Json → List Json
  | [] => []
  | item :: items => canonical item :: canonicalItems items

-- Members in order, their values in canonical form. Later members are placed first, so they win.
def canonicalMembers : List (String × Json) → List (String × Json)
  | [] => []
  | (key, value) :: members => place key (canonical value) (canonicalMembers members)
end

def Rising {α : Type} (members : List (String × α)) : Prop :=
  members.Pairwise fun a b => a.1 < b.1

mutual
def IsCanonical : Json → Prop
  | .null | .bool _ | .string _ => True
  | .number n => n.Fits
  | .array items => AreCanonical items
  | .object members => Rising members ∧ HasCanonical members

def AreCanonical : List Json → Prop
  | [] => True
  | item :: items => IsCanonical item ∧ AreCanonical items

def HasCanonical : List (String × Json) → Prop
  | [] => True
  | (_, value) :: members => IsCanonical value ∧ HasCanonical members
end

theorem mem_place {α : Type} {key : String} {value : α} {members : List (String × α)} {m : String × α}
    (placed : m ∈ place key value members) : m = (key, value) ∨ m ∈ members := by
  induction members with
  | nil => simpa [place] using placed
  | cons head rest earlier =>
      unfold place at placed
      split at placed
      · simpa using placed
      · split at placed
        · exact .inr placed
        · rcases List.mem_cons.mp placed with rfl | later
          · exact .inr (List.mem_cons_self ..)
          · exact (earlier later).imp_right (List.mem_cons_of_mem _)

theorem rising_place {α : Type} (key : String) (value : α) {members : List (String × α)}
    (rising : Rising members) : Rising (place key value members) := by
  induction members with
  | nil => simp [place, Rising]
  | cons head rest placed =>
      have headFirst := List.pairwise_cons.mp rising
      unfold place
      split
      · rename_i less
        refine List.pairwise_cons.mpr ⟨fun m present => ?_, rising⟩
        rcases List.mem_cons.mp present with rfl | later
        · exact less
        · exact String.lt_trans less (headFirst.1 m later)
      · split
        · exact rising
        · rename_i notLess different
          refine List.pairwise_cons.mpr ⟨fun m present => ?_, placed headFirst.2⟩
          rcases mem_place present with rfl | later
          · exact Std.lt_of_le_of_ne (Std.not_lt.mp notLess) (Ne.symm different)
          · exact headFirst.1 m later

theorem has_canonical_place (key : String) {value : Json} {members : List (String × Json)}
    (valueCanonical : IsCanonical value) (rest : HasCanonical members) : HasCanonical (place key value members) := by
  induction members with
  | nil => simp [place, HasCanonical, valueCanonical]
  | cons head tail placed =>
      unfold place
      split
      · exact ⟨valueCanonical, rest⟩
      · split
        · exact rest
        · exact ⟨rest.1, placed rest.2⟩

mutual
theorem is_canonical_canonical : (document : Json) → IsCanonical (canonical document)
  | .null | .bool _ | .string _ => trivial
  | .number n => n.fits_wrap
  | .array items => are_canonical_canonical_items items
  | .object members => canonical_members_canonical members

theorem are_canonical_canonical_items : (items : List Json) → AreCanonical (canonicalItems items)
  | [] => trivial
  | item :: items => ⟨is_canonical_canonical item, are_canonical_canonical_items items⟩

theorem canonical_members_canonical :
    (members : List (String × Json)) → Rising (canonicalMembers members) ∧ HasCanonical (canonicalMembers members)
  | [] => ⟨List.Pairwise.nil, trivial⟩
  | (key, value) :: members =>
      have rest := canonical_members_canonical members
      ⟨rising_place key (canonical value) rest.1,
        has_canonical_place key (is_canonical_canonical value) rest.2⟩
end

end Json

structure JsonObject where
  members : List (String × Json)
  canonical : Json.IsCanonical (.object members)

namespace JsonObject

def ofMembers (members : List (String × Json)) : JsonObject :=
  ⟨Json.canonicalMembers members, Json.canonical_members_canonical members⟩

def toJson (o : JsonObject) : Json :=
  .object o.members

end JsonObject

end SqlFilter
