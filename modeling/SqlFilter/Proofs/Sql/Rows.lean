import Mathlib.Algebra.Ring.Int.Defs
import SqlFilter.Proofs.Sql.Indentation

/-!
# Lines and their indentation

The SQL of a tree as a list of rows, each with the depth that it is indented by. The lines of the text are the rows, and
the parentheses left open before a line give its depth.
-/

set_option autoImplicit false

namespace SqlFilter

variable {F : Type}

namespace Node

-- A group has a line break before each child and one before its closing parenthesis; without children it still has two.
mutual
def lineBreaks : Node F → Nat
  | .leaf _ => 0
  | .group _ _ nodes => max 1 nodes.length + 1 + lineBreaksOf nodes
def lineBreaksOf : List (Node F) → Nat
  | [] => 0
  | node :: nodes => lineBreaks node + lineBreaksOf nodes
end

end Node

namespace Sql

-- A line of the SQL of a tree, with the number of groups that it stands in. A child that is not the first of its group
-- has a logic word before it.
inductive Row where
  | opening (depth : Nat) (word : Option Logic)
  | condition (depth : Nat) (word : Option Logic) (text : List Char)
  | blank (depth : Nat)
  | closing (depth : Nat)

namespace Row

def depth : Row → Nat
  | .opening depth _ | .condition depth _ _ | .blank depth | .closing depth => depth

def wordChars : Option Logic → List Char
  | none => []
  | some logic => logic.sql.toList ++ [' ']

def body : Row → List Char
  | .opening _ word => wordChars word ++ ['(']
  | .condition _ word text => wordChars word ++ text
  | .blank _ => []
  | .closing _ => [')']

def chars (width : Nat) (row : Row) : List Char :=
  List.replicate (row.depth * width) ' ' ++ row.body

def condition? : Row → Option (List Char)
  | .condition _ _ text => some text
  | .opening _ _ | .blank _ | .closing _ => none

def isClosing : Row → Bool
  | .closing _ => true
  | .opening _ _ | .condition _ _ _ | .blank _ => false

-- How a line changes the number of open groups.
def rise : Row → Int
  | .opening _ _ => 1
  | .closing _ => -1
  | .condition _ _ _ | .blank _ => 0

end Row

namespace Block

mutual
def rows (depth : Nat) (word : Option Logic) : Block → List Row
  | .condition text => [.condition depth word text]
  | .group _ [] => [.opening depth word, .blank (depth + 1), .closing depth]
  | .group logic (first :: others) =>
      .opening depth word ::
        (rows (depth + 1) none first ++ (furtherRows (depth + 1) logic others ++ [.closing depth]))
def furtherRows (depth : Nat) (logic : Logic) : List Block → List Row
  | [] => []
  | block :: blocks => rows depth (some logic) block ++ furtherRows depth logic blocks
end

theorem lead_wide (width depth : Nat) (wide : 0 < width) (word : Option Logic) :
    lead width depth word = '\n' :: (List.replicate (depth * width) ' ' ++ Row.wordChars word) := by
  cases word with
  | none => simp [lead, indent_wide depth width wide, Row.wordChars]
  | some logic =>
      rw [lead, separator_chars, if_neg (Nat.ne_of_gt wide), indent_wide depth width wide, List.cons_append]
      rfl

theorem closing_wide (width depth : Nat) (wide : 0 < width) :
    (closing (depth + 1) width).toList ++ [')'] = '\n' :: (Row.closing depth).chars width := by
  rw [closing, indent_wide _ _ wide]
  rfl

-- Every line of a block has the line break that comes before it.
mutual
theorem rows_chars (width : Nat) (wide : 0 < width) (depth : Nat) (word : Option Logic) (block : Block) :
    lead width depth word ++ block.chars width depth =
      (block.rows depth word).flatMap fun row => '\n' :: row.chars width := by
  have led := lead_wide width depth wide word
  cases block with
  | condition text => simp [led, chars, rows, Row.chars, Row.depth, Row.body]
  | group logic children =>
      have closed := closing_wide width depth wide
      cases children with
      | nil =>
          have inner := lead_wide width (depth + 1) wide none
          rw [chars, rows, led, inner, closed]
          simp [Row.chars, Row.depth, Row.body, Row.wordChars]
      | cons first others =>
          have head := rows_chars width wide (depth + 1) none first
          have tail := further_rows_chars width wide (depth + 1) logic others
          rw [chars, rows, led, closed, tail, ← List.append_assoc (lead width (depth + 1) none), head]
          simp [Row.chars, Row.depth, Row.body]
theorem further_rows_chars (width : Nat) (wide : 0 < width) (depth : Nat) (logic : Logic) (blocks : List Block) :
    further width depth logic blocks = (furtherRows depth logic blocks).flatMap fun row => '\n' :: row.chars width := by
  cases blocks with
  | nil => rfl
  | cons block blocks =>
      rw [further, furtherRows, List.flatMap_append, ← List.append_assoc,
        rows_chars width wide depth (some logic) block, further_rows_chars width wide depth logic blocks]
end

mutual
theorem rows_conditions (depth : Nat) (word : Option Logic) (block : Block) :
    (block.rows depth word).filterMap Row.condition? = block.conditions := by
  cases block with
  | condition text => rfl
  | group logic children =>
      cases children with
      | nil => rfl
      | cons first others =>
          rw [rows, List.filterMap_cons_none rfl, List.filterMap_append, List.filterMap_append,
            rows_conditions (depth + 1) none first, further_rows_conditions (depth + 1) logic others]
          simp [conditions, conditionsOf, Row.condition?]
theorem further_rows_conditions (depth : Nat) (logic : Logic) (blocks : List Block) :
    (furtherRows depth logic blocks).filterMap Row.condition? = conditionsOf blocks := by
  cases blocks with
  | nil => rfl
  | cons block blocks =>
      rw [furtherRows, List.filterMap_append, rows_conditions depth (some logic) block,
        further_rows_conditions depth logic blocks, conditionsOf]
end

end Block

-- Lines whose depths follow from what the lines before them open and close, when so many groups are open already.
def Leveled : Int → List Row → Prop
  | _, [] => True
  | level, row :: rows =>
      (row.depth : Int) = level - (if row.isClosing then 1 else 0) ∧ Leveled (level + row.rise) rows

theorem leveled_cons (depth : Nat) (row : Row) (rest : List Row) (inside : row.depth = depth)
    (keeps : row.isClosing = false) (later : Leveled (depth + row.rise) rest) : Leveled depth (row :: rest) :=
  ⟨by simp [inside, keeps], later⟩

-- A block closes all that it opens, so that the lines after it go on where it began.
mutual
theorem rows_leveled (depth : Nat) (word : Option Logic) (block : Block) (rest : List Row)
    (later : Leveled depth rest) : Leveled depth (block.rows depth word ++ rest) := by
  cases block with
  | condition text => exact leveled_cons depth _ rest rfl rfl (by simpa [Row.rise] using later)
  | group logic children =>
      have closed : Leveled ((depth + 1 : Nat) : Int) (.closing depth :: rest) :=
        ⟨by simp [Row.depth, Row.isClosing], by simpa [Row.rise, Int.add_neg_cancel_right] using later⟩
      cases children with
      | nil =>
          have inner : Leveled ((depth + 1 : Nat) : Int) (.blank (depth + 1) :: .closing depth :: rest) :=
            leveled_cons (depth + 1) _ _ rfl rfl (by simpa [Row.rise] using closed)
          exact leveled_cons depth _ _ rfl rfl inner
      | cons first others =>
          have inner := rows_leveled (depth + 1) none first _ (further_rows_leveled (depth + 1) logic others _ closed)
          rw [Block.rows, List.cons_append, List.append_assoc, List.append_assoc]
          exact leveled_cons depth _ _ rfl rfl inner
theorem further_rows_leveled (depth : Nat) (logic : Logic) (blocks : List Block) (rest : List Row)
    (later : Leveled depth rest) : Leveled depth (Block.furtherRows depth logic blocks ++ rest) := by
  cases blocks with
  | nil => exact later
  | cons block blocks =>
      rw [Block.furtherRows, List.append_assoc]
      exact rows_leveled depth (some logic) block _ (further_rows_leveled depth logic blocks rest later)
end

theorem leveled_depth (level : Int) (before : List Row) (row : Row) (after : List Row)
    (leveled : Leveled level (before ++ row :: after)) :
    (row.depth : Int) = level + (before.map Row.rise).sum - (if row.isClosing then 1 else 0) := by
  induction before generalizing level with
  | nil => simpa using leveled.1
  | cons earlier before ih =>
      have depth := ih (level + earlier.rise) leveled.2
      rw [depth, List.map_cons, List.sum_cons, Int.add_assoc]

-- What the lines of a text look like from outside: how many blanks they begin with, whether the first other character
-- closes a parenthesis, and how many parentheses they leave open.
def margin (line : List Char) : Nat :=
  (line.takeWhile (· == ' ')).length

def beginsClosing (line : List Char) : Bool :=
  (line.dropWhile (· == ' ')).head? == some ')'

def leftOpen (lines : List (List Char)) : Int :=
  lines.flatten.count '(' - lines.flatten.count ')'

-- The first line begins at the margin. Every other line has as many blanks as the lines before it leave parentheses
-- open, times the width, where a parenthesis that the line begins with closing no longer counts.
def Indented (width : Nat) (lines : List (List Char)) : Prop :=
  ∀ before line after, lines = before ++ line :: after →
    (margin line : Int) =
      if before.isEmpty then 0 else width * (leftOpen before - if beginsClosing line then 1 else 0)

theorem word_chars_first (word : Option Logic) (text : List Char)
    (first : text.head? ≠ some ' ' ∧ text.head? ≠ some ')') :
    (Row.wordChars word ++ text).head? ≠ some ' ' ∧ (Row.wordChars word ++ text).head? ≠ some ')' := by
  cases word with
  | none => exact first
  | some logic => cases logic <;> simp [Row.wordChars, Logic.sql]

theorem body_first (row : Row) (line : ∀ text ∈ row.condition?, Line text) :
    row.body.head? ≠ some ' ' ∧ (row.body.head? == some ')') = row.isClosing := by
  have kept {body : List Char} (first : body.head? ≠ some ' ' ∧ body.head? ≠ some ')') :
      body.head? ≠ some ' ' ∧ (body.head? == some ')') = false :=
    ⟨first.1, beq_false_of_ne first.2⟩
  cases row with
  | opening depth word => exact kept (word_chars_first word ['('] (by simp))
  | condition depth word text =>
      obtain ⟨c, rest, rfl, notBlank, noClosing⟩ := (line text rfl).first
      exact kept (word_chars_first word (c :: rest) (by simp [notBlank, noClosing]))
  | blank depth => exact ⟨nofun, rfl⟩
  | closing depth => exact ⟨by simp [Row.body], rfl⟩

theorem row_margin (width : Nat) (row : Row) (line : ∀ text ∈ row.condition?, Line text) :
    margin (row.chars width) = row.depth * width ∧ beginsClosing (row.chars width) = row.isClosing := by
  obtain ⟨solid, closes⟩ := body_first row line
  have blanks : ∀ c ∈ List.replicate (row.depth * width) ' ', (c == ' ') = true := fun c member =>
    beq_iff_eq.mpr (List.eq_of_mem_replicate member)
  have stops : row.body.takeWhile (· == ' ') = [] ∧ row.body.dropWhile (· == ' ') = row.body := by
    cases body : row.body with
    | nil => exact ⟨rfl, rfl⟩
    | cons c rest =>
        have notBlank : c ≠ ' ' := by simpa [body] using solid
        simp [notBlank]
  rw [margin, beginsClosing, Row.chars, List.takeWhile_append_of_pos blanks, List.dropWhile_append_of_pos blanks,
    stops.1, stops.2, List.append_nil, List.length_replicate]
  exact ⟨rfl, closes⟩

theorem calm_word (word : Option Logic) : Calm (Row.wordChars word) := by
  cases word with
  | none => nofun
  | some logic => exact without_append (without_logic (by decide) logic) (without_blanks (by decide) 1)

theorem row_parentheses (width : Nat) (row : Row) (line : ∀ text ∈ row.condition?, Line text) :
    ((row.chars width).count '(' : Int) - (row.chars width).count ')' = row.rise := by
  have blanks := calm_count (without_blanks (by decide) (row.depth * width))
  rw [Row.chars, List.count_append, List.count_append, blanks.1, blanks.2]
  cases row with
  | opening depth word =>
      have words := calm_count (calm_word word)
      simp [Row.body, Row.rise, List.count_append, words]
  | condition depth word text =>
      have words := calm_count (calm_word word)
      have balanced := (line text rfl).balanced
      simp [Row.body, Row.rise, List.count_append, words, balanced]
  | blank depth => rfl
  | closing depth => simp [Row.body, Row.rise]

theorem row_unbroken (width : Nat) (row : Row) (line : ∀ text ∈ row.condition?, Line text) :
    '\n' ∉ row.chars width := by
  have blanks : '\n' ∉ List.replicate (row.depth * width) ' ' := calm_unbroken (without_blanks (by decide) _)
  have words (word : Option Logic) : '\n' ∉ Row.wordChars word := calm_unbroken (calm_word word)
  have body : '\n' ∉ row.body := by
    cases row with
    | opening depth word => simp [Row.body, words]
    | condition depth word text => simp [Row.body, words, (line text rfl).unbroken]
    | blank depth => nofun
    | closing depth => simp [Row.body]
  rw [Row.chars, List.mem_append, not_or]
  exact ⟨blanks, body⟩

theorem left_open_cons (line : List Char) (lines : List (List Char)) :
    leftOpen (line :: lines) = line.count '(' - line.count ')' + leftOpen lines := by
  rw [leftOpen, leftOpen, List.flatten_cons, List.count_append, List.count_append]
  omega

theorem left_open_rows (width : Nat) (rows : List Row) (lines : ∀ row ∈ rows, ∀ text ∈ row.condition?, Line text) :
    leftOpen (rows.map (Row.chars width)) = (rows.map Row.rise).sum := by
  induction rows with
  | nil => rfl
  | cons row rows ih =>
      rw [List.forall_mem_cons] at lines
      rw [List.map_cons, left_open_cons, row_parentheses width row lines.1, ih lines.2, List.map_cons, List.sum_cons]

theorem rows_indented (width : Nat) (rows : List Row) (leveled : Leveled 0 rows)
    (lines : ∀ row ∈ rows, ∀ text ∈ row.condition?, Line text) : Indented width (rows.map (Row.chars width)) := by
  intro before line after split
  obtain ⟨earlier, row, later, rfl, rfl, rfl, rfl⟩ : ∃ earlier row later, rows = earlier ++ row :: later ∧
      before = earlier.map (Row.chars width) ∧ line = row.chars width ∧ after = later.map (Row.chars width) := by
    obtain ⟨earlier, rest, rfl, rfl, others⟩ := List.map_eq_append_iff.mp split
    obtain ⟨row, later, rfl, rfl, rfl⟩ := List.map_eq_cons_iff.mp others
    exact ⟨earlier, row, later, rfl, rfl, rfl, rfl⟩
  have rowLine := lines row (by simp)
  obtain ⟨blanks, closes⟩ := row_margin width row rowLine
  have depth := leveled_depth 0 earlier row later leveled
  rw [Int.zero_add, ← left_open_rows width earlier fun row member => lines row (by simp [member])] at depth
  rw [blanks, closes, Int.natCast_mul]
  cases earlier with
  | nil =>
      have first : row.depth = 0 := by
        have level := leveled.1
        split at level <;> omega
      simp [first]
  | cons previous earlier =>
      rw [depth, Int.mul_comm]
      rfl

theorem break_count (lines : List (List Char)) (unbroken : ∀ line ∈ lines, '\n' ∉ line) :
    (lines.flatMap fun line => '\n' :: line).count '\n' = lines.length := by
  induction lines with
  | nil => rfl
  | cons line lines ih =>
      rw [List.forall_mem_cons] at unbroken
      rw [List.flatMap_cons, List.cons_append, List.count_cons_self, List.count_append,
        List.count_eq_zero_of_not_mem unbroken.1, ih unbroken.2, Nat.zero_add, List.length_cons]

-- Lines each of which has a line break before it are a text and its parts, but for the first line break.
theorem split_lines (text : List Char) (lines : List (List Char)) (unbroken : ∀ line ∈ lines, '\n' ∉ line)
    (written : '\n' :: text = lines.flatMap fun line => '\n' :: line) :
    text.splitOn '\n' = lines ∧ text.count '\n' + 1 = lines.length := by
  have count := break_count lines unbroken
  rw [← written, List.count_cons_self] at count
  refine ⟨?_, count⟩
  cases lines with
  | nil => cases written
  | cons first others =>
      rw [List.flatMap_cons, List.cons_append, List.cons.injEq] at written
      rw [written.2, ← intercalate_cons_flat]
      exact List.splitOn_intercalate '\n' unbroken (by simp)

namespace Block

theorem rows_lines (block : Block) (lines : ∀ text ∈ block.conditions, Line text) :
    ∀ row ∈ block.rows 0 none, ∀ text ∈ row.condition?, Line text := by
  intro row member text shown
  refine lines text ?_
  rw [← rows_conditions 0 none]
  exact List.mem_filterMap.mpr ⟨row, member, shown⟩

theorem split_chars (width : Nat) (wide : 0 < width) (block : Block) (lines : ∀ text ∈ block.conditions, Line text) :
    (block.chars width 0).splitOn '\n' = (block.rows 0 none).map (Row.chars width) ∧
      (block.chars width 0).count '\n' + 1 = (block.rows 0 none).length := by
  have unbroken : ∀ line ∈ (block.rows 0 none).map (Row.chars width), '\n' ∉ line := by
    intro line member
    obtain ⟨row, inRows, rfl⟩ := List.mem_map.mp member
    exact row_unbroken width row (rows_lines block lines row inRows)
  have written := rows_chars width wide 0 none block
  have led : lead width 0 none = ['\n'] := by simp [lead_wide width 0 wide, Row.wordChars]
  rw [led, List.singleton_append, ← List.flatMap_map] at written
  have split := split_lines _ _ unbroken written
  rwa [List.length_map] at split

end Block

variable [FieldName F]

mutual
theorem rows_length (transformer : Option (Transformer F)) (depth : Nat) (word : Option Logic)
    (fieldPrefix : Option String) (number : UInt64) (node : Node F) :
    ((numbered transformer fieldPrefix number node).rows depth word).length = node.lineBreaks + 1 := by
  cases node with
  | leaf leaf => rfl
  | group logic own nodes =>
      cases nodes with
      | nil => rfl
      | cons first others =>
          have head := rows_length transformer (depth + 1) none own number first
          have tail := further_rows_length transformer (depth + 1) logic own
            (number + .ofNat (Leaf.operandTotal first.leaves)) others
          rw [numbered, numberedAll, Block.rows, Node.lineBreaks, Node.lineBreaksOf]
          simp only [List.length_cons, List.length_append, head, tail, List.length_nil]
          omega
theorem further_rows_length (transformer : Option (Transformer F)) (depth : Nat) (logic : Logic)
    (fieldPrefix : Option String) (number : UInt64) (nodes : List (Node F)) :
    (Block.furtherRows depth logic (numberedAll transformer fieldPrefix number nodes)).length =
      nodes.length + Node.lineBreaksOf nodes := by
  cases nodes with
  | nil => rfl
  | cons node nodes =>
      have head := rows_length transformer depth (some logic) fieldPrefix number node
      have tail := further_rows_length transformer depth logic fieldPrefix
        (number + .ofNat (Leaf.operandTotal node.leaves)) nodes
      rw [numberedAll, Block.furtherRows, List.length_append, head, tail, List.length_cons, Node.lineBreaksOf]
      omega
end

/-- The SQL of a tree as lines: each condition is on a line, which holds nothing else but blanks and a logic word, so
no line holds two of them. -/
structure LaidOut (options : RenderOptions F) (root : Node F) (sql : List Char) : Prop where
  indented : Indented options.indentation (sql.splitOn '\n')
  conditions : ∃ (rows : List Row) (next : UInt64), sql.splitOn '\n' = rows.map (Row.chars options.indentation) ∧
    WrittenInTurn options.transformer options.start (root.placed none) (rows.filterMap Row.condition?) next
  breaks : sql.count '\n' = root.lineBreaks

theorem layout_follows_nesting (root : Node F) (options : RenderOptions F) (result : BoundSql)
    (wide : 0 < options.indentation) (words : ∀ token ∈ leftTokens options.transformer root, Word token)
    (rendered : renderParameterized (some root) options = .ok result) :
    ∃ sql, result.sql = some sql ∧ LaidOut options root sql.toList := by
  obtain ⟨positive, sound, _⟩ := rendered_parameterized rendered
  rw [render_parameterized_blocks root options positive, sound] at rendered
  cases rendered
  refine ⟨_, rfl, ?_⟩
  rw [String.toList_ofList]
  have lines := numbered_lines root options sound words
  obtain ⟨split, count⟩ := Block.split_chars options.indentation wide _ lines
  rw [rows_length] at count
  refine ⟨?_, ⟨(numbered options.transformer none options.start root).rows 0 none,
    options.start + .ofNat (Leaf.operandTotal root.leaves), split, ?_⟩, Nat.succ.inj count⟩
  · rw [split]
    have leveled := rows_leveled 0 none (numbered options.transformer none options.start root) [] trivial
    rw [List.append_nil] at leveled
    exact rows_indented options.indentation _ leveled (Block.rows_lines _ lines)
  · rw [Block.rows_conditions]
    exact node_in_turn options.transformer none root options.start sound

theorem hollow_filter_laid_out :
    (∀ token ∈ leftTokens none hollowFilter, Word token) ∧
      ∃ result sql, renderParameterized (some hollowFilter) { indentation := 3, start := 9 } = .ok result ∧
        result.sql = some sql ∧ LaidOut { indentation := 3, start := 9 } hollowFilter sql.toList ∧
        hollowFilter.lineBreaks = 11 := by
  have words : ∀ token ∈ leftTokens none hollowFilter, Word token := by decide +kernel
  obtain ⟨sql, written, laidOut⟩ :=
    layout_follows_nesting hollowFilter { indentation := 3, start := 9 } _ (by decide) words rfl
  exact ⟨words, _, sql, rfl, written, laidOut, rfl⟩

end Sql

end SqlFilter
