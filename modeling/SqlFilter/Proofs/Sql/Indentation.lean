import SqlFilter.Proofs.Sql.Blocks

/-!
# Indented SQL is the one-line SQL

White space between the parts of the SQL is the only difference. `collapse` takes the line breaks back with what follows
them; that needs operands and left-hand sides which hold no line break that could be taken for the renderer's.
-/

set_option autoImplicit false

namespace SqlFilter.Sql

def isBlank (c : Char) : Bool :=
  c == ' ' || c == '\n'

-- A text with its line breaks taken back. A run of white space that begins with a line break is dropped at the inside
-- of a parenthesis and becomes one blank elsewhere; any other run stays. `opened` tells whether the character before
-- the text opens a parenthesis.
def collapse (opened : Bool) (text : List Char) : List Char :=
  match text with
  | [] => []
  | c :: rest =>
      if isBlank c then
        let after := rest.dropWhile isBlank
        let kept :=
          if c ≠ '\n' then c :: rest.takeWhile isBlank
          else if opened || after.head? == some ')' then []
          else [' ']
        kept ++ collapse false after
      else c :: collapse (c == '(') rest
termination_by text.length
decreasing_by
  · exact Nat.lt_succ_of_le (List.dropWhile_sublist isBlank).length_le
  · exact Nat.lt_succ_self _

theorem collapse_solid (opened : Bool) (c : Char) (rest : List Char) (solid : isBlank c = false) :
    collapse opened (c :: rest) = c :: collapse (c == '(') rest := by
  rw [collapse, if_neg (by simp [solid])]

theorem collapse_run (opened : Bool) (c : Char) (run after : List Char) (blank : isBlank c = true)
    (blanks : ∀ d ∈ run, isBlank d = true) (solid : ∀ d ∈ after.head?, isBlank d = false) :
    collapse opened (c :: (run ++ after)) =
      (if c ≠ '\n' then c :: run else if opened || after.head? == some ')' then [] else [' ']) ++
        collapse false after := by
  have stops : after.takeWhile isBlank = [] ∧ after.dropWhile isBlank = after := by
    cases after with
    | nil => exact ⟨rfl, rfl⟩
    | cons d after => simp [solid d rfl]
  rw [collapse, if_pos blank, List.takeWhile_append_of_pos blanks, List.dropWhile_append_of_pos blanks, stops.1,
    stops.2, List.append_nil]

-- A blank that no line break follows is like any other character.
theorem collapse_blank (opened : Bool) (rest : List Char) (stays : rest.head? ≠ some '\n') :
    collapse opened (' ' :: rest) = ' ' :: collapse false rest := by
  have space : isBlank ' ' = true := rfl
  rw [collapse, if_pos space]
  cases rest with
  | nil => simp
  | cons d rest =>
      cases blank : isBlank d with
      | false => simp [blank]
      | true =>
          have notBreak : d ≠ '\n' := fun same => stays (congrArg some same)
          rw [collapse, if_pos blank]
          simp [blank, notBreak]

theorem collapse_line (opened : Bool) (front : List Char) (c : Char) (rest : List Char) (unbroken : '\n' ∉ front)
    (solid : isBlank c = false) : collapse opened (front ++ c :: rest) = front ++ c :: collapse (c == '(') rest := by
  induction front generalizing opened with
  | nil => exact collapse_solid opened c rest solid
  | cons d front ih =>
      have notBreak : d ≠ '\n' := fun same => unbroken (same ▸ List.mem_cons_self)
      have later : '\n' ∉ front := fun member => unbroken (List.mem_cons_of_mem d member)
      cases blank : isBlank d with
      | false => rw [List.cons_append, collapse_solid _ _ _ blank, ih _ later, List.cons_append]
      | true =>
          have space : d = ' ' := by simpa [isBlank, notBreak] using blank
          have stays : (front ++ c :: rest).head? ≠ some '\n' := by
            cases front with
            | nil =>
                intro same
                rw [Option.some.inj same] at solid
                cases solid
            | cons e front => exact fun same => later (Option.some.inj same ▸ List.mem_cons_self)
          rw [space, List.cons_append, collapse_blank _ _ stays, ih _ later, List.cons_append]

theorem indent_wide (depth width : Nat) (wide : 0 < width) :
    (indent depth width).toList = '\n' :: List.replicate (depth * width) ' ' := by
  rw [indent, if_neg (Nat.ne_of_gt wide), String.toList_ofList]

-- A line break with blanks, and further white space after them.
theorem collapse_break (opened : Bool) (depth width : Nat) (wide : 0 < width) (more after : List Char)
    (blanks : ∀ c ∈ more, isBlank c = true) (solid : ∀ c ∈ after.head?, isBlank c = false) :
    collapse opened ((indent depth width).toList ++ (more ++ after)) =
      (if opened || after.head? == some ')' then [] else [' ']) ++ collapse false after := by
  have all : ∀ c ∈ List.replicate (depth * width) ' ' ++ more, isBlank c = true := by
    intro c member
    rcases List.mem_append.mp member with space | later
    · exact List.eq_of_mem_replicate space ▸ rfl
    · exact blanks c later
  rw [indent_wide depth width wide, List.cons_append, ← List.append_assoc, collapse_run _ _ _ _ rfl all solid,
    if_neg (by simp)]

theorem collapse_separator (logic : Logic) (depth width : Nat) (wide : 0 < width) (rest : List Char)
    (stays : rest.head? ≠ some '\n') :
    collapse false ((separator logic depth width).toList ++ rest) =
      (separator logic depth 0).toList ++ collapse false rest := by
  have word : ∃ front c, logic.sql.toList = front ++ [c] ∧ '\n' ∉ front ∧ isBlank c = false ∧ (c == '(') = false := by
    cases logic with
    | and => exact ⟨['a', 'n'], 'd', rfl, by decide, rfl, rfl⟩
    | or => exact ⟨['o'], 'r', rfl, by decide, rfl, rfl⟩
  have first : ∃ c more, logic.sql.toList = c :: more ∧ isBlank c = false ∧ c ≠ ')' := by
    cases logic <;> exact ⟨_, _, rfl, rfl, by decide⟩
  obtain ⟨front, c, ends, unbroken, solid, noOpening⟩ := word
  obtain ⟨d, more, begins, dSolid, noClosing⟩ := first
  have broken := collapse_break false depth width wide [] (logic.sql.toList ++ ' ' :: rest) (by simp)
    (by simp [begins, dSolid])
  have taken : collapse false (logic.sql.toList ++ ' ' :: rest) = logic.sql.toList ++ ' ' :: collapse false rest := by
    rw [ends, List.append_assoc, List.singleton_append, collapse_line _ _ _ _ unbroken solid, noOpening,
      collapse_blank _ _ stays, List.append_assoc, List.singleton_append]
  rw [List.nil_append, taken] at broken
  rw [separator_chars, separator_chars, if_neg (Nat.ne_of_gt wide), if_pos rfl]
  simpa [begins, noClosing] using broken

-- What a text begins with when it can stand after white space or a parenthesis without being changed by it.
def Begins (text : List Char) : Prop :=
  ∃ c rest, text = c :: rest ∧ isBlank c = false ∧ c ≠ ')'

theorem begins_append {text : List Char} (begins : Begins text) (more : List Char) : Begins (text ++ more) := by
  obtain ⟨c, rest, rfl, solid, noClosing⟩ := begins
  exact ⟨c, rest ++ more, rfl, solid, noClosing⟩

theorem begins_solid {text : List Char} (begins : Begins text) : ∀ c ∈ text.head?, isBlank c = false := by
  obtain ⟨c, rest, rfl, solid, _⟩ := begins
  rintro _ ⟨⟩
  exact solid

theorem line_begins {text : List Char} (line : Line text) : Begins text := by
  obtain ⟨c, rest, chars, notBlank, noClosing⟩ := line.first
  have notBreak : c ≠ '\n' := fun same => line.unbroken (by simp [chars, same])
  exact ⟨c, rest, chars, by simp [isBlank, notBlank, notBreak], noClosing⟩

theorem collapse_whole (opened : Bool) {text : List Char} (line : Line text) (rest : List Char) :
    collapse opened (text ++ rest) = text ++ collapse false rest := by
  obtain ⟨front, c, ends, notBlank, noOpening⟩ := line.last
  have unbroken : '\n' ∉ front := fun member => line.unbroken (by simp [ends, member])
  have notBreak : c ≠ '\n' := fun same => line.unbroken (by simp [ends, same])
  have solid : isBlank c = false := by simp [isBlank, notBlank, notBreak]
  have noneOpened : (c == '(') = false := beq_false_of_ne noOpening
  rw [ends, List.append_assoc, List.singleton_append, collapse_line _ _ _ _ unbroken solid, noneOpened,
    List.append_assoc, List.singleton_append]

namespace Block

def Lines (blocks : List Block) : Prop :=
  ∀ text ∈ conditionsOf blocks, Line text

theorem lines_cons {block : Block} {blocks : List Block} (lines : Lines (block :: blocks)) :
    (∀ text ∈ block.conditions, Line text) ∧ Lines blocks := by
  unfold Lines at lines ⊢
  rwa [conditionsOf, List.forall_mem_append] at lines

theorem chars_begin (width depth : Nat) (block : Block) (lines : ∀ text ∈ block.conditions, Line text) :
    Begins (block.chars width depth) := by
  cases block with
  | condition text => exact line_begins (lines text (List.mem_singleton_self text))
  | group logic children => cases children <;> exact ⟨'(', _, rfl, rfl, by decide⟩

theorem collapse_closing (opened : Bool) (depth width : Nat) (wide : 0 < width) (rest : List Char) :
    collapse opened ((closing (depth + 1) width).toList ++ ')' :: rest) = ')' :: collapse false rest := by
  have broken := collapse_break opened depth width wide [] (')' :: rest) (by simp) (by simp [isBlank])
  simpa [closing, collapse_solid, isBlank] using broken

mutual
theorem collapse_chars (width depth : Nat) (wide : 0 < width) (block : Block)
    (lines : ∀ text ∈ block.conditions, Line text) (opened : Bool) (rest : List Char) :
    collapse opened (block.chars width depth ++ rest) = block.chars 0 depth ++ collapse false rest := by
  have opening (text : List Char) : collapse opened ('(' :: text) = '(' :: collapse true text :=
    collapse_solid opened '(' text rfl
  cases block with
  | condition text => exact collapse_whole opened (lines text (List.mem_singleton_self text)) rest
  | group logic children =>
      cases children with
      | nil =>
          -- Nothing stands between the two line breaks, so they make up one run.
          have blanks : ∀ c ∈ (closing (depth + 1) width).toList, isBlank c = true := by
            intro c member
            rw [closing, indent_wide _ _ wide] at member
            rcases List.mem_cons.mp member with rfl | space
            · rfl
            · exact List.eq_of_mem_replicate space ▸ rfl
          have broken := collapse_break true (depth + 1) width wide _ (')' :: rest) blanks (by simp [isBlank])
          have closed : collapse false (')' :: rest) = ')' :: collapse false rest := collapse_solid _ _ _ rfl
          rw [closed] at broken
          simpa [chars, lead, opening, closing, indent] using broken
      | cons first others =>
          obtain ⟨head, tail⟩ := lines_cons lines
          have begins := begins_append (chars_begin width (depth + 1) first head)
            (further width (depth + 1) logic others ++ ((closing (depth + 1) width).toList ++ ')' :: rest))
          have broken := collapse_break true (depth + 1) width wide [] _ (by simp) (begins_solid begins)
          rw [collapse_chars width (depth + 1) wide first head,
            collapse_further width (depth + 1) wide logic others tail,
            collapse_closing false depth width wide] at broken
          simpa [chars, lead, opening, closing, indent] using broken
theorem collapse_further (width depth : Nat) (wide : 0 < width) (logic : Logic) (blocks : List Block)
    (lines : Lines blocks) (rest : List Char) :
    collapse false (further width depth logic blocks ++ rest) =
      further 0 depth logic blocks ++ collapse false rest := by
  cases blocks with
  | nil => rfl
  | cons block blocks =>
      obtain ⟨head, tail⟩ := lines_cons lines
      have begins := begins_append (chars_begin width depth block head) (further width depth logic blocks ++ rest)
      have stays : (block.chars width depth ++ (further width depth logic blocks ++ rest)).head? ≠ some '\n' := by
        obtain ⟨c, more, shown, solid, _⟩ := begins
        rw [shown]
        rintro ⟨⟩
        cases solid
      rw [further, further, lead, lead, List.append_assoc, List.append_assoc,
        collapse_separator logic depth width wide _ stays, collapse_chars width depth wide block head,
        collapse_further width depth wide logic blocks tail, List.append_assoc, List.append_assoc]
end

end Block

variable {F : Type} [FieldName F]

/-- Whatever the width, a tree fails for the same reason or has the same values, and its text is that of one line but
for the white space. Left-hand sides of several words could hold line breaks of their own, which would not be told
apart from those of the layout. -/
theorem indentation_is_white_space (root : Node F) (options : RenderOptions F) (wide : 0 < options.indentation)
    (words : ∀ token ∈ leftTokens options.transformer root, Word token) :
    (∃ e, renderParameterized (some root) options = .error e ∧
      renderParameterized (some root) { options with indentation := 0 } = .error e) ∨
    ∃ sql flat values, renderParameterized (some root) options = .ok ⟨some sql, values⟩ ∧
      renderParameterized (some root) { options with indentation := 0 } = .ok ⟨some flat, values⟩ ∧
      collapse false sql.toList = flat.toList := by
  by_cases zero : options.start = 0
  · refine .inl ⟨.invalidOption FilterError.zeroStart, ?_, ?_⟩ <;> rw [renderParameterized, if_pos zero]
  · have indented := render_parameterized_blocks root options zero
    have flat := render_parameterized_blocks root { options with indentation := 0 } zero
    cases failure : firstError? root with
    | some e =>
        rw [failure] at indented flat
        exact .inl ⟨e, indented, flat⟩
    | none =>
        have lines := numbered_lines root options failure words
        have collapsed := Block.collapse_chars options.indentation 0 wide _ lines false []
        rw [collapse, List.append_nil, List.append_nil] at collapsed
        rw [failure] at indented flat
        refine .inr ⟨_, _, _, indented, flat, ?_⟩
        rw [String.toList_ofList, String.toList_ofList, collapsed]

def hollowFilter : Node String :=
  .group .or (some "u.") [.group .and none [], .leaf (.of "age" .between (.array [.int 7, .null])),
    .group .and none [.leaf (.of "name" .isIn (.array [.string "(\n", .int 1])), .group .or none []]]

theorem hollow_filter_collapsed :
    (∀ token ∈ leftTokens none hollowFilter, Word token) ∧
      ∃ sql values, renderParameterized (some hollowFilter) { indentation := 3, start := 9 } = .ok ⟨some sql, values⟩ ∧
        collapse false sql.toList =
          "(() or u.age between $9 and $10 or (name in ($11, $12) and ()))".toList := by
  have words : ∀ token ∈ leftTokens none hollowFilter, Word token := by decide +kernel
  refine ⟨words, ?_⟩
  rcases indentation_is_white_space hollowFilter { indentation := 3, start := 9 } (by decide) words with
    ⟨e, failed, _⟩ | ⟨sql, flat, values, indented, onOneLine, collapsed⟩
  · cases failed
  · have shown : renderParameterized (some hollowFilter) { start := 9 } =
        .ok ⟨some "(() or u.age between $9 and $10 or (name in ($11, $12) and ()))", values⟩ := by
      cases onOneLine
      rfl
    cases onOneLine.symm.trans shown
    exact ⟨sql, values, indented, collapsed⟩

end SqlFilter.Sql
