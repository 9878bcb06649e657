import SqlFilter.Proofs.Digits
import SqlFilter.Proofs.Sql.Tree

/-!
# What stands between operands

Operators, logic words, layout and placeholders are made of few characters. Scanners of the SQL need to know which
characters these are not.
-/

set_option autoImplicit false

namespace SqlFilter.Sql

-- None of some marks is in a text. What may stand between operands without being taken for something else is always
-- said in this form, with the marks that matter to the reader of the text.
def Without (marks text : List Char) : Prop :=
  ∀ c ∈ text, c ∉ marks

instance (marks text : List Char) : Decidable (Without marks text) :=
  List.decidableBAll _ text

-- The characters of operators, logic words and what separates operands.
def wordChars : List Char :=
  " ,<>=!abcdefghijklmnopqrstuvwxyz".toList

section Marks

variable {marks : List Char}

theorem without_append {a b : List Char} (left : Without marks a) (right : Without marks b) : Without marks (a ++ b) :=
  List.forall_mem_append.mpr ⟨left, right⟩

theorem without_cons {c : Char} {text : List Char} (head : c ∉ marks) (tail : Without marks text) :
    Without marks (c :: text) :=
  List.forall_mem_cons.mpr ⟨head, tail⟩

theorem without_blanks (apart : ' ' ∉ marks) (count : Nat) : Without marks (List.replicate count ' ') := by
  intro c member
  rwa [List.eq_of_mem_replicate member]

theorem without_words {text : List Char} (apart : Without marks wordChars) (words : text ⊆ wordChars) :
    Without marks text :=
  fun c member => apart c (words member)

theorem without_logic (apart : Without marks wordChars) (logic : Logic) : Without marks logic.sql.toList := by
  refine without_words apart ?_
  cases logic <;> decide

theorem without_glue (apart : Without marks wordChars) (op : Operator) : Without marks (glue op).toList := by
  refine without_words apart ?_
  cases op <;> decide

-- The parenthesis of a list is the only mark of its kind that an operator brings along.
theorem without_opening (apart : Without marks wordChars) (op : Operator) (isNull : Bool)
    (noList : (op = .isIn && !isNull) = true → '(' ∉ marks) : Without marks (opening op isNull).toList := by
  cases isNull with
  | true =>
      refine without_words apart ?_
      cases op <;> decide
  | false =>
      cases op with
      | isIn =>
          have listed : (opening .isIn false).toList = "in ".toList ++ ['('] := rfl
          rw [listed]
          exact without_append (without_words apart (by decide)) (without_cons (noList rfl) nofun)
      | _ => exact without_words apart (by decide)

theorem without_indent (apart : Without marks wordChars) (unbroken : '\n' ∉ marks) (depth width : Nat) :
    Without marks (indent depth width).toList := by
  unfold indent
  split
  · nofun
  · rw [String.toList_ofList]
    exact without_cons unbroken (without_blanks (apart ' ' (by decide)) _)

theorem without_separator (apart : Without marks wordChars) (unbroken : '\n' ∉ marks) (logic : Logic)
    (depth width : Nat) : Without marks (separator logic depth width).toList := by
  have blank : Without marks " ".toList := without_words apart (by decide)
  unfold separator
  split
  · rw [String.toList_append, String.toList_append]
    exact without_append (without_append blank (without_logic apart logic)) blank
  · rw [String.toList_append, String.toList_append]
    exact without_append (without_append (without_indent apart unbroken _ _) (without_logic apart logic)) blank

theorem placeholder_chars (number : UInt64) :
    (placeholder number).toList = '$' :: Nat.toDigits 10 number.toNat := by
  simp [placeholder]

theorem without_placeholder (apart : marks.all (fun mark => mark != '$' && !mark.isDigit) = true) (number : UInt64) :
    Without marks (placeholder number).toList := by
  have other {mark : Char} (marked : mark ∈ marks) : mark ≠ '$' ∧ mark.isDigit = false := by
    simpa using List.all_eq_true.mp apart mark marked
  rw [placeholder_chars]
  refine without_cons (fun dollar => (other dollar).1 rfl) fun c digit marked => ?_
  have isDigit := digit_of_mem number.toNat c digit
  rw [(other marked).2] at isDigit
  cases isDigit

end Marks

-- What opens a placeholder or a quotation is not in the text around operands.
abbrev PlainText (s : String) : Prop :=
  Without ['$', '"', '\''] s.toList

theorem plain_text_append {a b : String} (left : PlainText a) (right : PlainText b) : PlainText (a ++ b) := by
  rw [PlainText, String.toList_append]
  exact without_append left right

-- A text that can stand after a number without becoming part of it.
def Breaking (s : String) : Prop :=
  ∃ c rest, s.toList = c :: rest ∧ c.isDigit = false

theorem breaking_append {a b : String} (breaking : Breaking a) : Breaking (a ++ b) := by
  obtain ⟨c, rest, chars, noDigit⟩ := breaking
  exact ⟨c, rest ++ b.toList, by simp [chars], noDigit⟩

theorem breaking_separator (logic : Logic) (depth width : Nat) : Breaking (separator logic depth width) := by
  unfold separator
  split
  · exact breaking_append (breaking_append ⟨' ', [], rfl, rfl⟩)
  · rename_i wide
    rw [indent, if_neg wide]
    exact breaking_append (breaking_append ⟨'\n', _, String.toList_ofList, rfl⟩)

theorem breaking_closing (depth width : Nat) : Breaking (closing depth width ++ ")") := by
  unfold closing indent
  split
  · exact ⟨')', [], rfl, rfl⟩
  · exact breaking_append ⟨'\n', _, String.toList_ofList, rfl⟩

theorem breaking_glue (op : Operator) : Breaking (glue op) := by
  cases op <;> exact ⟨_, _, rfl, rfl⟩

namespace Fragment

def Plain (fragment : Fragment) : Prop :=
  ∀ s, Piece.text s ∈ fragment → PlainText s

def Breaks : Fragment → Prop
  | [] => True
  | .text s :: _ => Breaking s
  | .left _ :: _ | .operand _ _ :: _ => False

-- No operand and no left-hand side runs into what comes after it.
def Delimited : Fragment → Prop
  | [] => True
  | .operand _ _ :: rest | .left _ :: rest => Breaks rest ∧ Delimited rest
  | .text _ :: rest => Delimited rest

theorem plain_append {a b : Fragment} (left : a.Plain) (right : b.Plain) : Plain (a ++ b) := by
  intro s member
  rcases List.mem_append.mp member with inLeft | inRight
  · exact left s inLeft
  · exact right s inRight

theorem plain_cons {s : String} {rest : Fragment} (head : PlainText s) (tail : rest.Plain) :
    Plain (.text s :: rest) := by
  intro t member
  rcases List.mem_cons.mp member with same | later
  · exact Piece.text.inj same ▸ head
  · exact tail t later

theorem plain_intercalate {separator : String} (plain : PlainText separator) {fragments : List Fragment}
    (each : ∀ fragment ∈ fragments, fragment.Plain) : Plain ([Piece.text separator].intercalate fragments) := by
  induction fragments with
  | nil => simp [Plain]
  | cons fragment others ih =>
      have head := each fragment List.mem_cons_self
      cases others with
      | nil => simpa using head
      | cons next others =>
          rw [List.intercalate_cons_cons, List.append_assoc]
          exact plain_append head (plain_cons plain (ih fun f member => each f (List.mem_cons_of_mem _ member)))

theorem breaks_append {a b : Fragment} (left : a.Breaks) (right : b.Breaks) : Breaks (a ++ b) := by
  cases a with
  | nil => exact right
  | cons piece rest => cases piece <;> exact left

theorem delimited_append {a b : Fragment} (left : a.Delimited) (right : b.Delimited) (breaks : b.Breaks) :
    Delimited (a ++ b) := by
  induction a with
  | nil => exact right
  | cons piece rest ih =>
      cases piece with
      | text s => exact ih left
      | left s | operand quoted value => exact ⟨breaks_append left.1 breaks, ih left.2⟩

theorem delimited_intercalate {separator : String} (breaking : Breaking separator) {fragments : List Fragment}
    (each : ∀ fragment ∈ fragments, fragment.Delimited) :
    Delimited ([Piece.text separator].intercalate fragments) := by
  induction fragments with
  | nil => trivial
  | cons fragment others ih =>
      have head := each fragment List.mem_cons_self
      cases others with
      | nil => simpa using head
      | cons next others =>
          rw [List.intercalate_cons_cons, List.append_assoc]
          exact delimited_append head (ih fun f member => each f (List.mem_cons_of_mem _ member)) breaking

end Fragment

variable {F : Type}

theorem condition_plain (leaf : Leaf F) : (conditionFragment leaf).Plain := by
  have words : Without ['$', '"', '\''] wordChars := by decide
  refine Fragment.plain_append (Fragment.plain_cons (without_opening words _ _ fun _ => by decide)
    (Fragment.plain_intercalate (without_glue words _) ?_)) ?_
  · intro fragment member
    obtain ⟨value, _, rfl⟩ := List.mem_map.mp member
    simp [Fragment.Plain]
  · unfold ending
    split
    · exact Fragment.plain_cons (by decide) nofun
    · nofun

theorem condition_delimited (leaf : Leaf F) : (conditionFragment leaf).Delimited := by
  have operands : Fragment.Delimited
      ([Piece.text (glue leaf.op)].intercalate (leaf.operands.map fun value => [.operand (isQuoted leaf) value])) := by
    refine Fragment.delimited_intercalate (breaking_glue _) fun fragment member => ?_
    obtain ⟨value, _, rfl⟩ := List.mem_map.mp member
    exact ⟨trivial, trivial⟩
  have closed : (ending leaf.op leaf.value.isNull).Delimited ∧ (ending leaf.op leaf.value.isNull).Breaks := by
    unfold ending
    split
    · exact ⟨trivial, ')', [], rfl, rfl⟩
    · exact ⟨trivial, trivial⟩
  exact Fragment.delimited_append operands closed.1 closed.2

variable [FieldName F]

mutual
theorem node_plain (transformer : Option (Transformer F)) (width depth : Nat) (fieldPrefix : Option String)
    (node : Node F) : (nodeFragment transformer width depth fieldPrefix node).Plain := by
  cases node with
  | leaf leaf =>
      have blank : PlainText " " := by decide
      intro s member
      rw [nodeFragment] at member
      exact Fragment.plain_cons blank (condition_plain leaf) s (by simpa using member)
  | group logic own nodes =>
      have words : Without ['$', '"', '\''] wordChars := by decide
      have indented (depth : Nat) : PlainText (indent depth width) := without_indent words (by decide) _ _
      rw [nodeFragment]
      refine Fragment.plain_append (Fragment.plain_cons ?_ (Fragment.plain_intercalate
        (without_separator words (by decide) _ _ _) (nodes_plain transformer width (depth + 1) own nodes))) ?_
      · exact plain_text_append (by decide) (indented _)
      · exact Fragment.plain_cons (plain_text_append (indented _) (by decide)) nofun
theorem nodes_plain (transformer : Option (Transformer F)) (width depth : Nat) (fieldPrefix : Option String)
    (nodes : List (Node F)) :
    ∀ fragment ∈ nodeFragments transformer width depth fieldPrefix nodes, fragment.Plain := by
  cases nodes with
  | nil => simp [nodeFragments]
  | cons node nodes =>
      rw [nodeFragments]
      intro fragment member
      rcases List.mem_cons.mp member with rfl | later
      · exact node_plain transformer width depth fieldPrefix node
      · exact nodes_plain transformer width depth fieldPrefix nodes fragment later
end

mutual
theorem node_delimited (transformer : Option (Transformer F)) (width depth : Nat) (fieldPrefix : Option String)
    (node : Node F) : (nodeFragment transformer width depth fieldPrefix node).Delimited := by
  cases node with
  | leaf leaf =>
      rw [nodeFragment]
      exact ⟨⟨' ', [], rfl, rfl⟩, condition_delimited leaf⟩
  | group logic own nodes =>
      rw [nodeFragment]
      have children := nodes_delimited transformer width (depth + 1) own nodes
      exact Fragment.delimited_append (Fragment.delimited_intercalate (breaking_separator _ _ _) children) trivial
        (breaking_closing _ _)
theorem nodes_delimited (transformer : Option (Transformer F)) (width depth : Nat) (fieldPrefix : Option String)
    (nodes : List (Node F)) :
    ∀ fragment ∈ nodeFragments transformer width depth fieldPrefix nodes, fragment.Delimited := by
  cases nodes with
  | nil => simp [nodeFragments]
  | cons node nodes =>
      rw [nodeFragments]
      intro fragment member
      rcases List.mem_cons.mp member with rfl | later
      · exact node_delimited transformer width depth fieldPrefix node
      · exact nodes_delimited transformer width depth fieldPrefix nodes fragment later
end

end SqlFilter.Sql
