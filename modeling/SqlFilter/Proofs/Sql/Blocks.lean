import SqlFilter.Proofs.Sql.Parentheses
import SqlFilter.Proofs.Sql.Words

/-!
# Written trees

`Block` lies between a tree and its SQL: the conditions are texts, with their placeholders, and the layout is still to
be put in. What holds of lines and of parentheses is proved of blocks, for every width at once.
-/

set_option autoImplicit false

namespace SqlFilter.Sql

-- A tree whose conditions have been written, placeholders and all. What its SQL still lacks is the layout.
inductive Block where
  | condition (text : List Char)
  | group (logic : Logic) (children : List Block)

namespace Block

-- What stands before a child of a group. All but the first have the logic of the group before them.
def lead (width depth : Nat) : Option Logic → List Char
  | none => (indent depth width).toList
  | some logic => (separator logic depth width).toList

mutual
def chars (width depth : Nat) : Block → List Char
  | .condition text => text
  | .group _ [] => '(' :: (lead width (depth + 1) none ++ ((closing (depth + 1) width).toList ++ [')']))
  | .group logic (first :: others) =>
      '(' :: (lead width (depth + 1) none ++ (chars width (depth + 1) first ++
        (further width (depth + 1) logic others ++ ((closing (depth + 1) width).toList ++ [')']))))
def further (width depth : Nat) (logic : Logic) : List Block → List Char
  | [] => []
  | block :: blocks => lead width depth (some logic) ++ (chars width depth block ++ further width depth logic blocks)
end

mutual
def conditions : Block → List (List Char)
  | .condition text => [text]
  | .group _ children => conditionsOf children
def conditionsOf : List Block → List (List Char)
  | [] => []
  | block :: blocks => conditions block ++ conditionsOf blocks
end

end Block

variable {F : Type} [FieldName F]

def conditionChars (transformer : Option (Transformer F)) (leaf : Leaf F) (fieldPrefix : Option String)
    (number : UInt64) : List Char :=
  (left transformer leaf fieldPrefix).toList ++ ' ' :: (conditionFragment leaf).chars number

-- The numbering goes on from each tree to the next, so it is settled here for good: no layout has a say in it.
mutual
def numbered (transformer : Option (Transformer F)) (fieldPrefix : Option String) (number : UInt64) : Node F → Block
  | .leaf leaf => .condition (conditionChars transformer leaf fieldPrefix number)
  | .group logic own nodes => .group logic (numberedAll transformer own number nodes)
def numberedAll (transformer : Option (Transformer F)) (fieldPrefix : Option String) (number : UInt64) :
    List (Node F) → List Block
  | [] => []
  | node :: nodes =>
      numbered transformer fieldPrefix number node ::
        numberedAll transformer fieldPrefix (number + .ofNat (Leaf.operandTotal node.leaves)) nodes
end

section Layout

variable (transformer : Option (Transformer F)) (width : Nat)

theorem further_chars (depth : Nat) (fieldPrefix : Option String) (logic : Logic) (node : Node F)
    (others : List Fragment) (number : UInt64) :
    Fragment.chars ((nodeFragment transformer width depth fieldPrefix node :: others).flatMap fun child =>
        .text (separator logic depth width) :: child) number =
      (separator logic depth width).toList ++ ((nodeFragment transformer width depth fieldPrefix node).chars number ++
        Fragment.chars (others.flatMap fun child => .text (separator logic depth width) :: child)
          (number + .ofNat (Leaf.operandTotal node.leaves))) := by
  rw [List.flatMap_cons, List.cons_append, Fragment.chars, Fragment.chars_append, node_operands]
  rfl

mutual
theorem node_chars (depth : Nat) (fieldPrefix : Option String) (node : Node F) (number : UInt64) :
    (nodeFragment transformer width depth fieldPrefix node).chars number =
      (numbered transformer fieldPrefix number node).chars width depth := by
  cases node with
  | leaf leaf =>
      rw [nodeFragment, numbered, Block.chars]
      rfl
  | group logic own nodes =>
      cases nodes with
      | nil => simp [nodeFragment, nodeFragments, numbered, numberedAll, Block.chars, Block.lead, Fragment.chars]
      | cons first others =>
          have children := node_chars (depth + 1) own first number
          have more := nodes_chars (depth + 1) own logic others (number + .ofNat (Leaf.operandTotal first.leaves))
          rw [nodeFragment, nodeFragments, intercalate_cons_flat, List.cons_append, Fragment.chars,
            Fragment.chars_append, Fragment.chars_append, node_operands, children, ← Leaf.operandTotal, more, numbered,
            numberedAll, Block.chars]
          simp [Fragment.chars, Block.lead]
theorem nodes_chars (depth : Nat) (fieldPrefix : Option String) (logic : Logic) (nodes : List (Node F))
    (number : UInt64) :
    Fragment.chars ((nodeFragments transformer width depth fieldPrefix nodes).flatMap fun child =>
        .text (separator logic depth width) :: child) number =
      Block.further width depth logic (numberedAll transformer fieldPrefix number nodes) := by
  cases nodes with
  | nil => rfl
  | cons node nodes =>
      rw [nodeFragments, further_chars, node_chars depth fieldPrefix node number,
        nodes_chars depth fieldPrefix logic nodes (number + .ofNat (Leaf.operandTotal node.leaves)), numberedAll,
        Block.further, Block.lead]
end

end Layout

-- Text that neither ends its line nor opens or closes anything.
abbrev Calm (text : List Char) : Prop :=
  Without ['\n', '(', ')'] text

theorem calm_placeholder (number : UInt64) : Calm (placeholder number).toList :=
  without_placeholder (by decide) number

theorem calm_further_items (count : Nat) (number : UInt64) : Calm (furtherItems count number) := by
  induction count generalizing number with
  | zero => nofun
  | succ count ih =>
      rw [further_items_succ]
      exact without_cons (by decide)
        (without_cons (by decide) (without_append (calm_placeholder number) (ih (number + 1))))

theorem calm_opening (op : Operator) (isNull : Bool) (noList : (op = .isIn && !isNull) = false) :
    Calm (opening op isNull).toList :=
  without_opening (by decide) op isNull fun list => absurd (noList.symm.trans list) Bool.false_ne_true

-- What a condition has after its left-hand side: parentheses around a list at its end, and none otherwise.
inductive RightSide : List Char → Prop where
  | bare {front : List Char} {c : Char} (calm : Calm (front ++ [c])) (solid : c ≠ ' ') : RightSide (front ++ [c])
  | list {items : List Char} (calm : Calm items) : RightSide ("in (".toList ++ (items ++ [')']))

theorem right_side_placeholder {text : List Char} (calm : Calm text) (number : UInt64) :
    RightSide (text ++ (placeholder number).toList) := by
  have digits : Nat.toDigits 10 number.toNat ≠ [] := Nat.toDigits_ne_nil
  have parts := List.dropLast_append_getLast digits
  have shown : text ++ (placeholder number).toList =
      (text ++ '$' :: (Nat.toDigits 10 number.toNat).dropLast) ++ [(Nat.toDigits 10 number.toNat).getLast digits] := by
    rw [placeholder_chars, List.append_assoc, List.cons_append, parts]
  have whole := without_append calm (calm_placeholder number)
  have isDigit := digit_of_mem number.toNat _ (List.getLast_mem digits)
  rw [shown] at whole ⊢
  refine .bare whole fun blank => ?_
  rw [blank] at isDigit
  exact absurd isDigit (by decide)

theorem null_right_side (op : Operator) : RightSide (opening op true).toList := by
  have calm := calm_opening op true (by simp)
  have shown : ∃ front, (opening op true).toList = front ++ ['l'] := by
    cases op with
    | eq => exact ⟨"is nul".toList, rfl⟩
    | _ => exact ⟨"is not nul".toList, rfl⟩
  obtain ⟨front, ends⟩ := shown
  rw [ends] at calm ⊢
  exact .bare calm (by decide)

theorem places_right_side (op : Operator) (noList : op ≠ .isIn) (number : UInt64) :
    RightSide ((opening op false).toList ++
      (operandPlaces op false (if op = .between then 2 else 1)).chars number) := by
  have calm := calm_opening op false (by simp [noList])
  by_cases range : op = .between
  · have places : (operandPlaces .between false 2).chars number =
        (placeholder number).toList ++ (" and ".toList ++ (placeholder (number + 1)).toList) := by
      simp [operandPlaces, List.replicate_succ, Fragment.chars, hole, glue, ending]
    have between : Calm " and ".toList := by decide
    rw [if_pos range, range, places, ← List.append_assoc, ← List.append_assoc]
    rw [range] at calm
    exact right_side_placeholder (without_append (without_append calm (calm_placeholder number)) between) (number + 1)
  · have places : (operandPlaces op false 1).chars number = (placeholder number).toList := by
      simp [operandPlaces, List.replicate_succ, Fragment.chars, hole, ending, noList]
    rw [if_neg range, places]
    exact right_side_placeholder calm number

theorem condition_right_side (leaf : Leaf F) (sound : shapeError? leaf = none) (number : UInt64) :
    RightSide ((conditionFragment leaf).chars number) := by
  have count := operand_count leaf sound
  rw [condition_chars]
  cases isNull : leaf.value.isNull with
  | true =>
      rw [null_operands leaf isNull, List.length_nil, null_places, List.append_nil]
      exact null_right_side leaf.op
  | false =>
      have count := count isNull
      by_cases list : leaf.op = .isIn
      · rw [if_pos list] at count
        obtain ⟨more, length⟩ := Nat.exists_eq_add_of_le' count
        rw [list, length, list_places_chars, ← List.append_assoc (placeholder number).toList]
        exact .list (without_append (calm_placeholder number) (calm_further_items more (number + 1)))
      · rw [if_neg list] at count
        rw [count]
        exact places_right_side leaf.op list number

theorem calm_count {text : List Char} (calm : Calm text) : text.count '(' = 0 ∧ text.count ')' = 0 :=
  ⟨List.count_eq_zero_of_not_mem fun member => calm '(' member (by decide),
    List.count_eq_zero_of_not_mem fun member => calm ')' member (by decide)⟩

theorem calm_unbroken {text : List Char} (calm : Calm text) : '\n' ∉ text :=
  fun broken => calm '\n' broken (by decide)

theorem calm_enclosed {front items : List Char} (before : Calm front) (inside : Calm items) :
    '\n' ∉ front ++ '(' :: (items ++ [')']) ∧
      (front ++ '(' :: (items ++ [')'])).count '(' = (front ++ '(' :: (items ++ [')'])).count ')' := by
  obtain ⟨frontOpens, frontCloses⟩ := calm_count before
  obtain ⟨itemsOpen, itemsClose⟩ := calm_count inside
  constructor
  · intro broken
    rcases List.mem_append.mp broken with inFront | inList
    · exact calm_unbroken before inFront
    · have inItems : '\n' ∈ items := by simpa using inList
      exact calm_unbroken inside inItems
  · rw [List.count_append, List.count_append, frontOpens, frontCloses]
    simp [List.count_append, itemsOpen, itemsClose]

-- A text that has nothing of a layout: it begins and ends with something else than white space, stays on its line and
-- closes what it opens.
structure Line (text : List Char) : Prop where
  first : ∃ c rest, text = c :: rest ∧ c ≠ ' ' ∧ c ≠ ')'
  last : ∃ front c, text = front ++ [c] ∧ c ≠ ' ' ∧ c ≠ '('
  unbroken : '\n' ∉ text
  balanced : text.count '(' = text.count ')'

/-- A left-hand side of one word. -/
def Word (token : String) : Prop :=
  token ≠ "" ∧ ∀ c ∈ token.toList, c ≠ ' ' ∧ c ≠ '\n' ∧ c ≠ '(' ∧ c ≠ ')'

-- It goes through the characters of the token, where a search through all characters would decide it as well.
instance (token : String) : Decidable (Word token) :=
  @instDecidableAnd _ _ _ (List.decidableBAll _ token.toList)

theorem word_calm {token : String} (word : Word token) : Calm token.toList := by
  intro c member
  simpa using (word.2 c member).2

theorem word_first {token : String} (word : Word token) :
    ∃ c rest, token.toList = c :: rest ∧ c ≠ ' ' ∧ c ≠ ')' := by
  cases chars : token.toList with
  | nil => exact absurd (String.toList_eq_nil_iff.mp chars) word.1
  | cons c rest =>
      have solid := word.2 c (chars ▸ List.mem_cons_self)
      exact ⟨c, rest, rfl, solid.1, solid.2.2.2⟩

theorem right_side_line {token : String} (word : Word token) {right : List Char} (side : RightSide right) :
    Line (token.toList ++ ' ' :: right) := by
  obtain ⟨c, rest, chars, notBlank, notClosing⟩ := word_first word
  have first (tail : List Char) : ∃ d more, token.toList ++ tail = d :: more ∧ d ≠ ' ' ∧ d ≠ ')' :=
    ⟨c, rest ++ tail, by rw [chars, List.cons_append], notBlank, notClosing⟩
  cases side with
  | @bare front d calm solid =>
      have whole : Calm (token.toList ++ ' ' :: (front ++ [d])) :=
        without_append (word_calm word) (without_cons (by decide) calm)
      have counts := calm_count whole
      have last : d ≠ '(' := fun opens => calm d (by simp) (by simp [opens])
      exact ⟨first _, ⟨token.toList ++ ' ' :: front, d, by simp, solid, last⟩, calm_unbroken whole,
        counts.1.trans counts.2.symm⟩
  | @list items calm =>
      have opened : Calm (token.toList ++ " in ".toList) := without_append (word_calm word) (by decide)
      have shown : token.toList ++ ' ' :: ("in (".toList ++ (items ++ [')'])) =
          (token.toList ++ " in ".toList) ++ '(' :: (items ++ [')']) := by
        simp
      obtain ⟨unbroken, balanced⟩ := calm_enclosed opened calm
      rw [shown]
      exact ⟨shown ▸ first _, ⟨(token.toList ++ " in ".toList) ++ '(' :: items, ')', by simp, by decide, by decide⟩,
        unbroken, balanced⟩

-- The conditions one after another, each with the right-hand side that is written for it when the placeholders of those
-- before it are used up, and with the number of the placeholder that comes next.
inductive WrittenInTurn (transformer : Option (Transformer F)) :
    UInt64 → List (Leaf F × Option String) → List (List Char) → UInt64 → Prop where
  | nil {number : UInt64} : WrittenInTurn transformer number [] [] number
  | cons {number next : UInt64} {leaf : Leaf F} {fieldPrefix : Option String} {places : List (Leaf F × Option String)}
      {right : String} {store : Bindings} {texts : List (List Char)}
      (written : (condition leaf).run (.bound (.startingAt number)) = .ok right (.bound store))
      (later : WrittenInTurn transformer store.next places texts next) :
      WrittenInTurn transformer number ((leaf, fieldPrefix) :: places)
        ((left transformer leaf fieldPrefix ++ " " ++ right).toList :: texts) next

section InTurn

variable (transformer : Option (Transformer F))

theorem written_append {number middle next : UInt64} {places others : List (Leaf F × Option String)}
    {texts more : List (List Char)} (first : WrittenInTurn transformer number places texts middle)
    (second : WrittenInTurn transformer middle others more next) :
    WrittenInTurn transformer number (places ++ others) (texts ++ more) next := by
  induction first with
  | nil => exact second
  | cons written _ ih => exact .cons written (ih second)

theorem leaf_in_turn (leaf : Leaf F) (fieldPrefix : Option String) (number : UInt64) (sound : shapeError? leaf = none) :
    WrittenInTurn transformer number [(leaf, fieldPrefix)] [conditionChars transformer leaf fieldPrefix number]
      (number + .ofNat leaf.operands.length) := by
  have run := condition_run leaf (.bound (.startingAt number))
  have chars := Fragment.write_chars (conditionFragment leaf) (.startingAt number)
  have grown : ((conditionFragment leaf).write (.bound (.startingAt number))).2 =
      .bound ⟨number + .ofNat leaf.operands.length, (#[] : Array Value) ++ leaf.operands⟩ := by
    rw [Fragment.write_bound, condition_operands]
    rfl
  have shown : conditionChars transformer leaf fieldPrefix number = (left transformer leaf fieldPrefix ++ " " ++
      ((conditionFragment leaf).write (.bound (.startingAt number))).1).toList := by
    rw [String.toList_append, String.toList_append, chars, conditionChars]
    simp [Bindings.startingAt]
  rw [sound, grown] at run
  rw [shown]
  exact .cons run .nil

mutual
theorem node_in_turn (fieldPrefix : Option String) (node : Node F) (number : UInt64) (sound : firstError? node = none) :
    WrittenInTurn transformer number (node.placed fieldPrefix) (numbered transformer fieldPrefix number node).conditions
      (number + .ofNat (Leaf.operandTotal node.leaves)) := by
  cases node with
  | leaf leaf =>
      have total : Leaf.operandTotal (Node.leaf leaf).leaves = leaf.operands.length := by
        simp [Leaf.operandTotal, Node.leaves]
      rw [first_error_leaf] at sound
      rw [total]
      exact leaf_in_turn transformer leaf fieldPrefix number sound
  | group logic own nodes => exact nodes_in_turn own nodes number sound
theorem nodes_in_turn (fieldPrefix : Option String) (nodes : List (Node F)) (number : UInt64)
    (sound : (Node.leavesOf nodes).findSome? shapeError? = none) :
    WrittenInTurn transformer number (Node.placedOf fieldPrefix nodes)
      (Block.conditionsOf (numberedAll transformer fieldPrefix number nodes))
      (number + .ofNat (Leaf.operandTotal (Node.leavesOf nodes))) := by
  cases nodes with
  | nil =>
      have unmoved : number + .ofNat (Leaf.operandTotal (Node.leavesOf ([] : List (Node F)))) = number :=
        UInt64.add_zero number
      rw [unmoved]
      exact .nil
  | cons node nodes =>
      rw [first_error_cons, Option.or_eq_none_iff] at sound
      rw [Node.leavesOf, Leaf.operand_total_append, UInt64.ofNat_add, ← UInt64.add_assoc]
      exact written_append transformer (node_in_turn fieldPrefix node number sound.1)
        (nodes_in_turn fieldPrefix nodes (number + .ofNat (Leaf.operandTotal node.leaves)) sound.2)
end

theorem condition_line (leaf : Leaf F) (fieldPrefix : Option String) (word : Word (left transformer leaf fieldPrefix))
    {number : UInt64} {right : String} {encoding : Encoding}
    (written : (condition leaf).run (.bound (.startingAt number)) = .ok right encoding) :
    Line (left transformer leaf fieldPrefix ++ " " ++ right).toList := by
  have run := condition_run leaf (.bound (.startingAt number))
  cases failure : shapeError? leaf with
  | some e =>
      rw [failure, written] at run
      cases run
  | none =>
      rw [failure, written] at run
      obtain ⟨text, _⟩ := EStateM.Result.ok.inj run
      have side := condition_right_side leaf failure (Bindings.startingAt number).next
      have shown : (left transformer leaf fieldPrefix ++ " " ++ right).toList =
          (left transformer leaf fieldPrefix).toList ++ ' ' :: right.toList := by
        simp
      rw [← Fragment.write_chars, ← text] at side
      rw [shown]
      exact right_side_line word side

theorem lines_in_turn {number next : UInt64} {places : List (Leaf F × Option String)} {texts : List (List Char)}
    (inTurn : WrittenInTurn transformer number places texts next)
    (words : ∀ place ∈ places, Word (left transformer place.1 place.2)) : ∀ text ∈ texts, Line text := by
  induction inTurn with
  | nil => nofun
  | @cons _ _ leaf fieldPrefix _ _ _ _ written _ ih =>
      rw [List.forall_mem_cons] at words
      exact List.forall_mem_cons.mpr ⟨condition_line transformer leaf fieldPrefix words.1 written, ih words.2⟩

end InTurn

theorem numbered_lines (root : Node F) (options : RenderOptions F) (sound : firstError? root = none)
    (words : ∀ token ∈ leftTokens options.transformer root, Word token) :
    ∀ text ∈ (numbered options.transformer none options.start root).conditions, Line text :=
  lines_in_turn options.transformer (node_in_turn options.transformer none root options.start sound)
    fun _ member => words _ (List.mem_map_of_mem member)

theorem render_parameterized_blocks (root : Node F) (options : RenderOptions F) (positive : options.start ≠ 0) :
    renderParameterized (some root) options =
      guarded (firstError? root)
        ⟨some (String.ofList ((numbered options.transformer none options.start root).chars options.indentation 0)),
          root.leaves.flatMap Leaf.operands⟩ := by
  have chars := Fragment.write_chars (fragment options root) (.startingAt options.start)
  rw [fragment, node_chars] at chars
  have text : ((fragment options root).write (.bound (.startingAt options.start))).1 =
      String.ofList ((numbered options.transformer none options.start root).chars options.indentation 0) :=
    String.toList_inj.mp (by rw [String.toList_ofList]; exact chars)
  have values : ((fragment options root).write (.bound (.startingAt options.start))).2.values =
      root.leaves.flatMap Leaf.operands := by
    rw [Fragment.write_bound, fragment_operands]
    simp [Encoding.values, Bindings.startingAt]
  rw [render_parameterized_write root options positive, text, values]

end SqlFilter.Sql
