import SqlFilter.Sql.Render

/-!
# Fragments

What a tree contributes to its SQL, with the places of its operands left open. The renderer never holds a fragment: it
threads an encoding through the tree and joins texts afterwards.
-/

set_option autoImplicit false

namespace SqlFilter.Sql

inductive Piece
  | text (s : String)
  | left (s : String)
  | operand (quoted : Bool) (value : Value)

abbrev Fragment :=
  List Piece

def Piece.operand? : Piece → Option Value
  | .operand _ value => some value
  | .text _ | .left _ => none

def Piece.left? : Piece → Option String
  | .left s => some s
  | .text _ | .operand _ _ => none

def Piece.literal? : Piece → Option String
  | .operand quoted value => some (Sql.literal value quoted)
  | .text _ | .left _ => none

variable {F : Type}

def Encoding.take (quoted : Bool) (value : Value) : Encoding → String × Encoding
  | .literal => (Sql.literal value quoted, .literal)
  | .bound store => ((store.bind value).1, .bound (store.bind value).2)

namespace Fragment

def write : Fragment → Encoding → String × Encoding
  | [], encoding => ("", encoding)
  | .text s :: rest, encoding => (s ++ (write rest encoding).1, (write rest encoding).2)
  | .left s :: rest, encoding => (s ++ (write rest encoding).1, (write rest encoding).2)
  | .operand quoted value :: rest, encoding =>
      let head := encoding.take quoted value
      (head.1 ++ (write rest head.2).1, (write rest head.2).2)

def writeAll : List Fragment → Encoding → List String × Encoding
  | [], encoding => ([], encoding)
  | fragment :: others, encoding =>
      let head := fragment.write encoding
      (head.1 :: (writeAll others head.2).1, (writeAll others head.2).2)

theorem write_append (a b : Fragment) (encoding : Encoding) :
    write (a ++ b) encoding =
      ((a.write encoding).1 ++ (b.write (a.write encoding).2).1, (b.write (a.write encoding).2).2) := by
  induction a generalizing encoding with
  | nil => simp [write]
  | cons piece rest ih => cases piece <;> simp [write, ih, String.append_assoc]

theorem write_intercalate (separator : String) (fragments : List Fragment) (encoding : Encoding) :
    write ([Piece.text separator].intercalate fragments) encoding =
      (separator.intercalate (writeAll fragments encoding).1, (writeAll fragments encoding).2) := by
  induction fragments generalizing encoding with
  | nil => simp [write, writeAll]
  | cons fragment others ih =>
      cases others with
      | nil => simp [writeAll]
      | cons next others =>
          rw [List.intercalate_cons_cons, write_append, write_append, ih]
          simp [write, writeAll, String.append_assoc]

theorem map_intercalate (f : Piece → Piece) (separator : String) (fixed : f (.text separator) = .text separator)
    (fragments : List Fragment) :
    ([Piece.text separator].intercalate fragments).map f =
      [Piece.text separator].intercalate (fragments.map (List.map f)) := by
  induction fragments with
  | nil => rfl
  | cons fragment others ih =>
      cases others with
      | nil => simp
      | cons next others =>
          rw [List.intercalate_cons_cons, List.map_append, List.map_append, ih]
          simp [fixed]

def operands (fragment : Fragment) : List Value :=
  fragment.filterMap Piece.operand?

def lefts (fragment : Fragment) : List String :=
  fragment.filterMap Piece.left?

def literals (fragment : Fragment) : List String :=
  fragment.filterMap Piece.literal?

theorem filter_map_intercalate {α : Type} (view : Piece → Option α) (separator : String)
    (silent : view (.text separator) = none) (fragments : List Fragment) :
    ([Piece.text separator].intercalate fragments).filterMap view = fragments.flatMap (List.filterMap view) := by
  induction fragments with
  | nil => rfl
  | cons fragment others ih =>
      cases others with
      | nil => simp
      | cons next others =>
          rw [List.intercalate_cons_cons, List.filterMap_append, List.filterMap_append, ih]
          simp [silent]

-- The texts before, between and after the operands: always one more than there are operands.
def gaps : Fragment → List String
  | [] => [""]
  | .text s :: rest | .left s :: rest => (gaps rest).modifyHead (s ++ ·)
  | .operand _ _ :: rest => "" :: gaps rest

theorem gaps_length (fragment : Fragment) : fragment.gaps.length = fragment.operands.length + 1 := by
  induction fragment with
  | nil => rfl
  | cons piece rest ih =>
      cases piece <;> simpa [gaps, operands, List.filterMap_cons, Piece.operand?] using ih

end Fragment

-- Gaps and fillers by turns, beginning with a gap.
def weave : List String → List String → String
  | [], _ => ""
  | gap :: _, [] => gap
  | gap :: gaps, filler :: fillers => gap ++ filler ++ weave gaps fillers

theorem weave_modify_head (s : String) (gaps fillers : List String) (present : gaps ≠ []) :
    weave (gaps.modifyHead (s ++ ·)) fillers = s ++ weave gaps fillers := by
  cases gaps with
  | nil => exact absurd rfl present
  | cons gap gaps => cases fillers <;> simp [weave, String.append_assoc]

-- The placeholders of so many operands, numbered on from a start. After the last number of the counter comes zero.
def placeholders (start : UInt64) (count : Nat) : List String :=
  (List.range count).map fun i => "$" ++ ((start.toNat + i) % 18446744073709551616).repr

theorem placeholders_length (start : UInt64) (count : Nat) : (placeholders start count).length = count := by
  rw [placeholders, List.length_map, List.length_range]

theorem placeholders_succ (start : UInt64) (count : Nat) :
    placeholders start (count + 1) = placeholder start :: placeholders (start + 1) count := by
  have first : (start.toNat + 0) % 18446744073709551616 = start.toNat := Nat.mod_eq_of_lt start.toNat_lt
  rw [placeholders, List.range_succ_eq_map, List.map_cons, List.map_map, first, placeholders]
  refine congrArg (List.cons _) (List.map_congr_left fun i _ => ?_)
  rw [Function.comp_apply, UInt64.toNat_add, Nat.mod_add_mod]
  congr 3
  change start.toNat + (i + 1) = start.toNat + 1 + i
  omega

-- Where the counter has room for all of them, their numbers are those of ordinary counting.
theorem placeholders_fit {start : UInt64} {count : Nat} (fits : start.toNat + count ≤ 18446744073709551616) :
    placeholders start count = (List.range count).map fun i => "$" ++ (start.toNat + i).repr := by
  refine List.map_congr_left fun i member => ?_
  have below := List.mem_range.mp member
  rw [Nat.mod_eq_of_lt (by omega)]

theorem advance (number : UInt64) (count : Nat) : number + 1 + .ofNat count = number + .ofNat (count + 1) := by
  rw [UInt64.ofNat_add, UInt64.add_assoc, UInt64.add_comm 1]
  rfl

namespace Fragment

theorem gaps_ne_nil (fragment : Fragment) : fragment.gaps ≠ [] := by
  intro empty
  have count := gaps_length fragment
  simp [empty] at count

theorem write_literal (fragment : Fragment) :
    fragment.write .literal = (weave fragment.gaps fragment.literals, .literal) := by
  induction fragment with
  | nil => rfl
  | cons piece rest ih =>
      cases piece with
      | text s | left s =>
          simp [write, gaps, literals, List.filterMap_cons, Piece.literal?, ih,
            weave_modify_head s _ _ (gaps_ne_nil rest)]
      | operand quoted value => simp [write, gaps, literals, Piece.literal?, Encoding.take, ih, weave]

-- The store grows by the operands in the order of their places, so its count and its numbers stay in step.
theorem write_bound (fragment : Fragment) (store : Bindings) :
    fragment.write (.bound store) =
      (weave fragment.gaps (placeholders store.next fragment.operands.length),
        .bound ⟨store.next + .ofNat fragment.operands.length, store.values ++ fragment.operands⟩) := by
  induction fragment generalizing store with
  | nil => simp [write, gaps, operands, placeholders, weave]
  | cons piece rest ih =>
      cases piece with
      | text s | left s =>
          simp [write, gaps, operands, List.filterMap_cons, Piece.operand?, ih,
            weave_modify_head s _ _ (gaps_ne_nil rest)]
      | operand quoted value =>
          have advanced := advance store.next (operands rest).length
          simp only [operands] at ih advanced
          simp [-UInt64.ofNat_add, write, gaps, operands, Piece.operand?, Encoding.take, Bindings.bind, ih, weave,
            placeholders_succ, advanced]

-- The characters that are written when the first operand becomes the placeholder of this number.
def chars : Fragment → UInt64 → List Char
  | [], _ => []
  | .text s :: rest, number => s.toList ++ chars rest number
  | .left s :: rest, number => s.toList ++ chars rest number
  | .operand _ _ :: rest, number => (placeholder number).toList ++ chars rest (number + 1)

theorem write_chars (fragment : Fragment) (store : Bindings) :
    (fragment.write (.bound store)).1.toList = fragment.chars store.next := by
  induction fragment generalizing store with
  | nil => rfl
  | cons piece rest ih => cases piece <;> simp [write, chars, Encoding.take, Bindings.bind, ih]

theorem chars_append (a b : Fragment) (number : UInt64) :
    (a ++ b).chars number = a.chars number ++ b.chars (number + .ofNat a.operands.length) := by
  induction a generalizing number with
  | nil => simp [chars, operands]
  | cons piece rest ih =>
      cases piece with
      | text s | left s => simp [chars, ih, operands, List.filterMap_cons, Piece.operand?]
      | operand quoted value =>
          have advanced := advance number (operands rest).length
          simp only [operands] at ih advanced
          simp [-UInt64.ofNat_add, chars, ih, operands, Piece.operand?, advanced]

end Fragment

theorem intercalate_cons_flat {α : Type} (separator : α) (first : List α) (others : List (List α)) :
    [separator].intercalate (first :: others) = first ++ others.flatMap fun other => separator :: other := by
  induction others generalizing first with
  | nil => simp
  | cons next others ih => rw [List.intercalate_cons_cons, ih, List.flatMap_cons]; simp

end SqlFilter.Sql
