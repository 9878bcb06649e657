import SqlFilter.Proofs.Sql.Identifiers
import SqlFilter.Proofs.Sql.Normal

/-!
# Words that end themselves

The parts of the SQL are such words: where two texts that begin with one are equal, the words are equal and so is what
follows them. Every `unique` lemma, from operators to trees, has this form.
-/

set_option autoImplicit false

namespace SqlFilter.Sql

theorem opening_shown (op : Operator) (isNull : Bool) :
    opening (shownOperator op isNull) isNull = opening op isNull := by
  cases isNull with
  | false => rfl
  | true => cases op <;> rfl

theorem openings_differ : ∀ a ∈ Operator.all, ∀ b ∈ Operator.all, ∀ u v : Bool,
    (opening a u).toList <+: (opening b v).toList → shownOperator a u = shownOperator b v ∧ u = v := by
  decide +kernel

theorem opening_unique (a b : Operator) (u v : Bool) (x y : List Char)
    (same : (opening a u).toList ++ x = (opening b v).toList ++ y) :
    shownOperator a u = shownOperator b v ∧ u = v ∧ x = y := by
  have begins : (opening a u).toList <+: (opening b v).toList ++ y := ⟨x, same⟩
  have shown : shownOperator a u = shownOperator b v ∧ u = v := by
    rcases List.prefix_or_prefix_of_prefix begins (List.prefix_append _ y) with shorter | longer
    · exact openings_differ a (Operator.mem_all a) b (Operator.mem_all b) u v shorter
    · obtain ⟨op, isNull⟩ := openings_differ b (Operator.mem_all b) a (Operator.mem_all a) v u longer
      exact ⟨op.symm, isNull.symm⟩
  refine ⟨shown.1, shown.2, ?_⟩
  rw [← opening_shown a u, ← opening_shown b v, shown.1, shown.2] at same
  exact List.append_cancel_left same

-- The items of a list after the first one, and what closes the list.
def furtherItems (count : Nat) (number : UInt64) : List Char :=
  Fragment.chars ((List.replicate count [hole]).flatMap fun item => .text ", " :: item) number

theorem further_items_succ (count : Nat) (number : UInt64) :
    furtherItems (count + 1) number =
      ',' :: ' ' :: ((placeholder number).toList ++ furtherItems count (number + 1)) := by
  rw [furtherItems, List.replicate_succ, List.flatMap_cons]
  rfl

theorem further_items_unique (m n : Nat) (number : UInt64) (x y : List Char)
    (same : furtherItems m number ++ ')' :: x = furtherItems n number ++ ')' :: y) : m = n ∧ x = y := by
  induction m generalizing n number with
  | zero =>
      cases n with
      | zero => exact ⟨rfl, (List.cons.inj same).2⟩
      | succ n =>
          rw [further_items_succ] at same
          exact absurd (List.cons.inj same).1 (by decide)
  | succ m ih =>
      cases n with
      | zero =>
          rw [further_items_succ] at same
          exact absurd (List.cons.inj same).1 (by decide)
      | succ n =>
          rw [further_items_succ, further_items_succ] at same
          simp only [List.cons_append, List.append_assoc, List.cons.injEq, true_and] at same
          obtain ⟨count, rest⟩ := ih n (number + 1) (List.append_cancel_left same)
          exact ⟨congrArg Nat.succ count, rest⟩

-- What follows the operator of a condition, which depends on the operands by their number only.
def operandPlaces (op : Operator) (isNull : Bool) (count : Nat) : Fragment :=
  [Piece.text (glue op)].intercalate (List.replicate count [hole]) ++ ending op isNull

theorem list_places_chars (count : Nat) (number : UInt64) :
    (operandPlaces .isIn false (count + 1)).chars number =
      (placeholder number).toList ++ (furtherItems count (number + 1) ++ [')']) := by
  rw [operandPlaces, List.replicate_succ, intercalate_cons_flat, Fragment.chars_append,
    Fragment.chars_append]
  simp [furtherItems, Fragment.chars, hole, glue, ending, Fragment.operands, Piece.operand?]

theorem list_places_unique (m n : Nat) (number : UInt64) (x y : List Char)
    (same : (operandPlaces .isIn false (m + 1)).chars number ++ x =
      (operandPlaces .isIn false (n + 1)).chars number ++ y) : m = n ∧ x = y := by
  simp only [list_places_chars, List.append_assoc] at same
  exact further_items_unique m n (number + 1) x y (List.append_cancel_left same)

theorem null_places (op : Operator) (number : UInt64) : (operandPlaces op true 0).chars number = [] := by
  simp [operandPlaces, ending, Fragment.chars]

variable {F G : Type}

theorem condition_chars (leaf : Leaf F) (number : UInt64) :
    (conditionFragment leaf).chars number =
      (opening leaf.op leaf.value.isNull).toList ++
        (operandPlaces leaf.op leaf.value.isNull leaf.operands.length).chars number := by
  rw [← Fragment.chars_strip, condition_strip]
  rfl

theorem null_operands (leaf : Leaf F) (null : leaf.value.isNull = true) : leaf.operands = [] := by
  obtain ⟨field, op, value, type⟩ := leaf
  cases value <;> simp_all [Value.isNull, Leaf.operands]

variable [FieldName F] [FieldName G]

-- A condition that can be written has as many operands as its operator takes: only a list leaves a choice.
theorem operand_count (leaf : Leaf F) (sound : shapeError? leaf = none) (present : leaf.value.isNull = false) :
    if leaf.op = .isIn then 1 ≤ leaf.operands.length
    else leaf.operands.length = if leaf.op = .between then 2 else 1 := by
  obtain ⟨field, op, value, type⟩ := leaf
  cases value with
  | null => simp [Value.isNull] at present
  | array items =>
      cases op with
      | between =>
          rcases items with _ | ⟨low, _ | ⟨high, _ | ⟨third, others⟩⟩⟩
          case cons.cons.nil => rfl
          all_goals simp [shapeError?] at sound
      | isIn =>
          cases items with
          | nil => simp [shapeError?] at sound
          | cons first others => simp [Leaf.operands]
      | _ => simp [shapeError?] at sound
  | _ => cases op <;> simp_all [shapeError?, Leaf.operands]

theorem condition_unique (leaf : Leaf F) (other : Leaf G) (sound : shapeError? leaf = none)
    (otherSound : shapeError? other = none) (number : UInt64) (x y : List Char)
    (same : (conditionFragment leaf).chars number ++ x = (conditionFragment other).chars number ++ y) :
    shownOperator leaf.op leaf.value.isNull = shownOperator other.op other.value.isNull ∧
      leaf.value.isNull = other.value.isNull ∧ leaf.operands.length = other.operands.length ∧ x = y := by
  rw [condition_chars, condition_chars, List.append_assoc, List.append_assoc] at same
  obtain ⟨shown, isNull, places⟩ := opening_unique _ _ _ _ _ _ same
  refine ⟨shown, isNull, ?_⟩
  cases null : leaf.value.isNull with
  | true =>
      have otherNull : other.value.isNull = true := isNull ▸ null
      rw [null_operands leaf null, null_operands other otherNull] at places ⊢
      rw [null, otherNull, List.length_nil, null_places, null_places] at places
      exact ⟨rfl, places⟩
  | false =>
      have otherPresent : other.value.isNull = false := isNull ▸ null
      have op : leaf.op = other.op := by simpa [null, otherPresent, shownOperator] using shown
      have count := operand_count leaf sound null
      have otherCount := operand_count other otherSound otherPresent
      rw [null, otherPresent, ← op] at places
      rw [← op] at otherCount
      by_cases list : leaf.op = .isIn
      · rw [if_pos list] at count otherCount
        obtain ⟨m, first⟩ := Nat.exists_eq_add_of_le' count
        obtain ⟨n, otherFirst⟩ := Nat.exists_eq_add_of_le' otherCount
        rw [list, first, otherFirst] at places
        obtain ⟨more, rest⟩ := list_places_unique m n number x y places
        exact ⟨by rw [first, otherFirst, more], rest⟩
      · rw [if_neg list] at count otherCount
        rw [count, otherCount] at places
        exact ⟨count.trans otherCount.symm, List.append_cancel_left places⟩

theorem dots_counted (m n : Nat) (x y : List Char)
    (same : List.replicate m '.' ++ ' ' :: x = List.replicate n '.' ++ ' ' :: y) : m = n := by
  induction m generalizing n with
  | zero =>
      cases n with
      | zero => rfl
      | succ n => simp [List.replicate_succ] at same
  | succ m ih =>
      cases n with
      | zero => simp [List.replicate_succ] at same
      | succ n =>
          rw [List.replicate_succ, List.replicate_succ] at same
          rw [ih n (List.cons.inj same).2]

theorem read_left_blank (leaf : Leaf F) (fieldPrefix : Option String) (rest : List Char) :
    readIdentifiers .outside ((left (some quoteIdentifiers) leaf fieldPrefix).toList ++ ' ' :: rest) =
      Reading.followedBy ⟨(dots (segments (path leaf fieldPrefix).toList).length).toList,
        segments (path leaf fieldPrefix).toList, true⟩ ((readIdentifiers .outside rest).keep ' ') := by
  have closed : (readIdentifiers .outside (left (some quoteIdentifiers) leaf fieldPrefix).toList).closed = true := by
    rw [read_left]
  rw [read_append _ _ _ closed (by simp), read_left]
  rfl

-- The dots outside the identifiers tell how many of them make up the first path.
theorem quoted_path_unique (leaf : Leaf F) (other : Leaf G) (p q : Option String) (x y : List Char)
    (same : (left (some quoteIdentifiers) leaf p).toList ++ ' ' :: x =
      (left (some quoteIdentifiers) other q).toList ++ ' ' :: y) :
    path leaf p = path other q ∧ x = y := by
  have reading := congrArg (readIdentifiers .outside) same
  rw [read_left_blank, read_left_blank] at reading
  have outside := congrArg Reading.outside reading
  have identifiers := congrArg Reading.identifiers reading
  simp only [Reading.followedBy, Reading.keep, dots, String.toList_ofList] at outside identifiers
  have count := dots_counted _ _ _ _ outside
  have present := List.length_pos_of_ne_nil (List.splitOn_ne_nil '.' (path leaf p).toList)
  have otherPresent := List.length_pos_of_ne_nil (List.splitOn_ne_nil '.' (path other q).toList)
  have lengths : (segments (path leaf p).toList).length = (segments (path other q).toList).length := by
    unfold segments at count ⊢
    omega
  have parts := List.append_inj_left identifiers lengths
  have paths : path leaf p = path other q := by
    have joined := congrArg (List.intercalate ['.']) parts
    unfold segments at joined
    rw [List.intercalate_splitOn, List.intercalate_splitOn] at joined
    exact String.toList_inj.mp joined
  have tokens : left (some quoteIdentifiers) leaf p = left (some quoteIdentifiers) other q := by
    simp [left, quoteIdentifiers, paths]
  rw [tokens] at same
  exact ⟨paths, (List.cons.inj (List.append_cancel_left same)).2⟩

theorem separator_chars (logic : Logic) (depth width : Nat) :
    (separator logic depth width).toList =
      (if width = 0 then " " else indent depth width).toList ++ (logic.sql.toList ++ [' ']) := by
  unfold separator
  split <;> simp

theorem separator_unique (logic other : Logic) (depth width : Nat) (x y : List Char)
    (same : (separator logic depth width).toList ++ x = (separator other depth width).toList ++ y) :
    logic = other ∧ x = y := by
  rw [separator_chars, separator_chars] at same
  simp only [List.append_assoc] at same
  have words := List.append_cancel_left same
  have agree : logic = other := by
    cases logic <;> cases other <;> simp_all [Logic.sql]
  rw [agree] at words
  rw [← List.append_assoc, ← List.append_assoc] at words
  exact ⟨agree, List.append_cancel_left words⟩

-- Both begin a line of their own, but the separator stands deeper in it than the parenthesis does.
theorem separator_not_closing (logic : Logic) (depth width : Nat) (x y : List Char) :
    (separator logic (depth + 1) width).toList ++ x ≠ (closing (depth + 1) width ++ ")").toList ++ y := by
  intro same
  unfold separator closing indent at same
  by_cases narrow : width = 0
  · simp [narrow] at same
  · have deeper : (depth + 1) * width = depth * width + (width - 1 + 1) := by
      rw [Nat.succ_mul]
      omega
    simp only [if_neg narrow, deeper, ← List.replicate_append_replicate, List.replicate_succ] at same
    simp at same

-- A child of a group begins with a quote or a parenthesis, and so never as the end of the group does.
theorem closing_first (depth width : Nat) :
    ∃ c rest, (closing depth width ++ ")").toList = c :: rest ∧ (c = '\n' ∨ c = ')') := by
  unfold closing indent
  by_cases narrow : width = 0
  · exact ⟨')', [], by simp [narrow], .inr rfl⟩
  · exact ⟨'\n', List.replicate ((depth - 1) * width) ' ' ++ [')'], by simp [narrow], .inl rfl⟩

theorem left_first (leaf : Leaf F) (fieldPrefix : Option String) :
    ∃ rest, (left (some quoteIdentifiers) leaf fieldPrefix).toList = '"' :: rest := by
  have present := List.splitOn_ne_nil '.' (path leaf fieldPrefix).toList
  simp only [left, quoteIdentifiers, segments, Option.bind_some, Option.getD_some, String.toList_ofList]
  cases parts : (path leaf fieldPrefix).toList.splitOn '.' with
  | nil => exact absurd parts present
  | cons part others => cases others <;> simp [quoteIdentifier, List.intercalate_cons_cons]

end SqlFilter.Sql
