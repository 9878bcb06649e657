import SqlFilter.Proofs.Filter.History
import SqlFilter.Proofs.Sql.Identifiers

/-!
# Counting parentheses in written SQL

How deep groups are nested can be seen in the SQL itself, and how many conditions it has, once literals and quoted
identifiers are passed over. `Shows` says so of a rendered text without looking at the tree.
-/

set_option autoImplicit false

namespace SqlFilter.Sql

-- The greatest number of parentheses of groups open at once, after some are. `before` is the text so far from its end:
-- a parenthesis after the word `in` opens a list, which is no group and has no parentheses inside.
def deepestGroup (opened : Nat) (listed : Bool) (before : List Char) : List Char → Nat
  | [] => opened
  | c :: rest =>
      if c = '(' then
        if before.take 3 = [' ', 'n', 'i'] then deepestGroup opened true (c :: before) rest
        else deepestGroup (opened + 1) listed (c :: before) rest
      else if c = ')' then
        if listed then deepestGroup opened false (c :: before) rest
        else max opened (deepestGroup (opened - 1) listed (c :: before) rest)
      else deepestGroup opened listed (c :: before) rest

def groupNesting (text : List Char) : Nat :=
  deepestGroup 0 false [] text

theorem opened_le_deepest_group (opened : Nat) (listed : Bool) (before text : List Char) :
    opened ≤ deepestGroup opened listed before text := by
  fun_induction deepestGroup opened listed before text <;> omega

abbrev Unparenthesised (text : List Char) : Prop :=
  Without ['(', ')'] text

theorem deepest_group_plain (opened : Nat) (listed : Bool) (before plain rest : List Char)
    (free : Unparenthesised plain) :
    deepestGroup opened listed before (plain ++ rest) = deepestGroup opened listed (plain.reverse ++ before) rest := by
  induction plain generalizing before with
  | nil => rfl
  | cons c plain ih =>
      obtain ⟨noOpening, noClosing⟩ : c ≠ '(' ∧ c ≠ ')' := by simpa using free c List.mem_cons_self
      rw [List.cons_append, deepestGroup, if_neg noOpening, if_neg noClosing,
        ih (c :: before) fun d member => free d (List.mem_cons_of_mem _ member)]
      simp

namespace Fragment

-- A text of a fragment in which each left-hand side and each operand is put in some way that has no parentheses.
inductive Masked : Fragment → List Char → Prop
  | nil : Masked [] []
  | text (s : String) {rest : Fragment} {later : List Char} (masked : Masked rest later) :
      Masked (.text s :: rest) (s.toList ++ later)
  | left (s : String) {mask : List Char} {rest : Fragment} {later : List Char} (free : Unparenthesised mask)
      (masked : Masked rest later) : Masked (.left s :: rest) (mask ++ later)
  | operand (quoted : Bool) (value : Value) {mask : List Char} {rest : Fragment} {later : List Char}
      (free : Unparenthesised mask) (masked : Masked rest later) :
      Masked (.operand quoted value :: rest) (mask ++ later)

theorem masked_append {a b : Fragment} {text : List Char} (masked : Masked (a ++ b) text) :
    ∃ first second, text = first ++ second ∧ Masked a first ∧ Masked b second := by
  induction a generalizing text with
  | nil => exact ⟨[], text, rfl, .nil, masked⟩
  | cons piece rest ih =>
      cases masked with
      | text s masked =>
          obtain ⟨first, second, rfl, left, right⟩ := ih masked
          exact ⟨s.toList ++ first, second, (List.append_assoc ..).symm, .text s left, right⟩
      | left s free masked =>
          obtain ⟨first, second, rfl, left, right⟩ := ih masked
          exact ⟨_ ++ first, second, (List.append_assoc ..).symm, .left s free left, right⟩
      | operand quoted value free masked =>
          obtain ⟨first, second, rfl, left, right⟩ := ih masked
          exact ⟨_ ++ first, second, (List.append_assoc ..).symm, .operand quoted value free left, right⟩

theorem masked_text {s : String} {text : List Char} (masked : Masked [.text s] text) : text = s.toList := by
  cases masked with
  | text s masked =>
      cases masked
      exact List.append_nil _

theorem masked_unparenthesised {fragment : Fragment} {text : List Char} (masked : Masked fragment text)
    (free : ∀ s, Piece.text s ∈ fragment → Unparenthesised s.toList) : Unparenthesised text := by
  induction masked with
  | nil => nofun
  | text s masked ih =>
      exact without_append (free s List.mem_cons_self)
        (ih fun t member => free t (List.mem_cons_of_mem _ member))
  | left s maskFree masked ih | operand quoted value maskFree masked ih =>
      exact without_append maskFree (ih fun t member => free t (List.mem_cons_of_mem _ member))

-- What a fragment has of its own: neither left-hand sides nor operands.
def own (fragment : Fragment) : List Char :=
  fragment.flatMap fun
    | .text s => s.toList
    | .left _ | .operand _ _ => []

theorem masked_own (fragment : Fragment) : fragment.Masked fragment.own := by
  have nothing : Unparenthesised [] := nofun
  induction fragment with
  | nil => exact .nil
  | cons piece rest ih =>
      cases piece with
      | text s => exact .text s ih
      | left s => exact .left s nothing ih
      | operand quoted value => exact .operand quoted value nothing ih

theorem masked_literals (fragment : Fragment) (lefts : ∀ token ∈ fragment.lefts, Unparenthesised token.toList)
    (literals : ∀ text ∈ fragment.literals, Unparenthesised text.toList) :
    fragment.Masked (fragment.write .literal).1.toList := by
  induction fragment with
  | nil => exact .nil
  | cons piece rest ih =>
      cases piece with
      | text s =>
          rw [write, String.toList_append]
          exact .text s (ih lefts literals)
      | left s =>
          rw [write, String.toList_append]
          exact .left s (lefts s List.mem_cons_self)
            (ih (fun token member => lefts token (List.mem_cons_of_mem _ member)) literals)
      | operand quoted value =>
          simp only [write, Encoding.take, String.toList_append]
          exact .operand quoted value (literals _ List.mem_cons_self)
            (ih lefts fun text member => literals text (List.mem_cons_of_mem _ member))

theorem masked_bound (fragment : Fragment) (rewrite : String → String)
    (lefts : ∀ token ∈ fragment.lefts, Unparenthesised (rewrite token).toList) (store : Bindings) :
    fragment.Masked ((fragment.strip rewrite).write (.bound store)).1.toList := by
  induction fragment generalizing store with
  | nil => exact .nil
  | cons piece rest ih =>
      rw [strip, List.map_cons]
      cases piece with
      | text s =>
          rw [Piece.strip, write, String.toList_append]
          exact .text s (ih lefts store)
      | left s =>
          rw [Piece.strip, write, String.toList_append]
          exact .left s (lefts s List.mem_cons_self)
            (ih (fun token member => lefts token (List.mem_cons_of_mem _ member)) store)
      | operand quoted value =>
          simp only [Piece.strip, hole, write, Encoding.take, String.toList_append]
          exact .operand quoted value (without_placeholder (by decide) store.next) (ih lefts _)

end Fragment

-- Before the parenthesis of a group there is nothing, another such parenthesis with white space, or a logic word.
theorem group_after_indent (depth width : Nat) (before : List Char) :
    ((indent depth width).toList.reverse ++ '(' :: before).take 3 ≠ [' ', 'n', 'i'] := by
  unfold indent
  split
  · simp
  · rcases depth * width with _ | _ | blanks <;> simp [List.replicate_succ']

theorem group_after_separator (logic : Logic) (depth width : Nat) (before : List Char) :
    ((separator logic depth width).toList.reverse ++ before).take 3 ≠ [' ', 'n', 'i'] := by
  unfold separator
  split <;> cases logic <;> simp [Logic.sql]

variable {F : Type}

theorem masked_operands (leaf : Leaf F) (text : List Char)
    (masked : Fragment.Masked
      ([Piece.text (glue leaf.op)].intercalate (leaf.operands.map fun value => [.operand (isQuoted leaf) value]))
      text) :
    Unparenthesised text := by
  refine Fragment.masked_unparenthesised masked fun s member => ?_
  have glued : s = glue leaf.op := by
    cases operands : leaf.operands with
    | nil => simp [operands] at member
    | cons value values =>
        rw [operands, List.map_cons, intercalate_cons_flat] at member
        simp only [List.mem_append, List.mem_flatMap, List.mem_map] at member
        rcases member with first | ⟨other, ⟨further, _, rfl⟩, later⟩
        · simp at first
        · simpa using later
  rw [glued]
  exact without_glue (by decide) leaf.op

-- A condition opens no group, and closes the list that it opens.
theorem condition_nesting (leaf : Leaf F) (opened : Nat) (before text rest : List Char)
    (masked : (conditionFragment leaf).Masked text) :
    deepestGroup opened false before (text ++ rest) = deepestGroup opened false (text.reverse ++ before) rest := by
  obtain ⟨front, back, rfl, frontMasked, backMasked⟩ := Fragment.masked_append masked
  cases frontMasked with
  | text s operandsMasked =>
      rename_i items
      have free := masked_operands leaf items operandsMasked
      cases list : leaf.op = .isIn && !leaf.value.isNull with
      | false =>
          rw [ending, list] at backMasked
          cases backMasked
          rw [List.append_nil]
          have opened : Unparenthesised (opening leaf.op leaf.value.isNull).toList :=
            without_opening (by decide) _ _ fun listed => absurd (list.symm.trans listed) Bool.false_ne_true
          exact deepest_group_plain _ _ _ _ _ (without_append opened free)
      | true =>
          have word : opening leaf.op leaf.value.isNull = "in (" := by
            simp only [Bool.and_eq_true, decide_eq_true_eq, Bool.not_eq_true'] at list
            rw [list.1, list.2]
            rfl
          rw [ending, if_pos list] at backMasked
          rw [word, Fragment.masked_text backMasked]
          have shown : "in (".toList ++ items ++ ")".toList ++ rest =
              'i' :: 'n' :: ' ' :: '(' :: (items ++ ')' :: rest) := by
            simp
          have listOpened : deepestGroup opened false before ('i' :: 'n' :: ' ' :: '(' :: (items ++ ')' :: rest)) =
              deepestGroup opened true ('(' :: ' ' :: 'n' :: 'i' :: before) (items ++ ')' :: rest) := rfl
          have listClosed (seen : List Char) :
              deepestGroup opened true seen (')' :: rest) = deepestGroup opened false (')' :: seen) rest := rfl
          rw [shown, listOpened, deepest_group_plain _ _ _ _ _ free, listClosed]
          simp

-- A group opens one parenthesis more than what is inside.
theorem enclosed_nesting (width depth opened nesting : Nat) (before inner rest : List Char)
    (noList : before.take 3 ≠ [' ', 'n', 'i'])
    (within : ∀ seen later, seen.take 3 ≠ [' ', 'n', 'i'] →
      deepestGroup (opened + 1) false seen (inner ++ later) =
        max (opened + 1 + nesting) (deepestGroup (opened + 1) false (inner.reverse ++ seen) later)) :
    deepestGroup opened false before
        (("(" ++ indent depth width).toList ++ inner ++ (closing depth width ++ ")").toList ++ rest) =
      max (opened + (1 + nesting)) (deepestGroup opened false
        ((("(" ++ indent depth width).toList ++ inner ++ (closing depth width ++ ")").toList).reverse ++ before)
        rest) := by
  have groupOpened (later : List Char) : deepestGroup opened false before ('(' :: later) =
      deepestGroup (opened + 1) false ('(' :: before) later := by
    rw [deepestGroup, if_pos rfl, if_neg noList]
  have groupClosed (seen : List Char) : deepestGroup (opened + 1) false seen (')' :: rest) =
      max (opened + 1) (deepestGroup opened false (')' :: seen) rest) := rfl
  have indentFree : Unparenthesised (indent depth width).toList := without_indent (by decide) (by decide) _ _
  have closingFree : Unparenthesised (closing depth width).toList := without_indent (by decide) (by decide) _ _
  calc
    _ = deepestGroup opened false before
          ('(' :: ((indent depth width).toList ++ (inner ++ ((closing depth width).toList ++ ')' :: rest)))) := by
        simp
    _ = max (opened + 1 + nesting) (max (opened + 1) (deepestGroup opened false
          (')' :: ((closing depth width).toList.reverse ++ (inner.reverse ++
            ((indent depth width).toList.reverse ++ '(' :: before)))) rest)) := by
        rw [groupOpened, deepest_group_plain _ _ _ _ _ indentFree,
          within _ _ (group_after_indent _ _ _), deepest_group_plain _ _ _ _ _ closingFree, groupClosed]
    _ = max (opened + (1 + nesting)) (deepestGroup opened false
          (')' :: ((closing depth width).toList.reverse ++ (inner.reverse ++
            ((indent depth width).toList.reverse ++ '(' :: before)))) rest) := by
        omega
    _ = _ := by
        simp

variable [FieldName F]

mutual
theorem node_nesting (transformer : Option (Transformer F)) (width depth : Nat) (fieldPrefix : Option String)
    (node : Node F) (opened : Nat) (before text rest : List Char) (noList : before.take 3 ≠ [' ', 'n', 'i'])
    (masked : (nodeFragment transformer width depth fieldPrefix node).Masked text) :
    deepestGroup opened false before (text ++ rest) =
      max (opened + node.depth) (deepestGroup opened false (text.reverse ++ before) rest) := by
  cases node with
  | leaf leaf =>
      rw [nodeFragment] at masked
      cases masked with
      | left s free masked =>
          rename_i mask later
          cases masked with
          | text s condition =>
              rename_i right
              have leftFree : Unparenthesised (mask ++ [' ']) := without_append free (without_blanks (by decide) 1)
              have least := opened_le_deepest_group opened false ((mask ++ [' '] ++ right).reverse ++ before) rest
              have shown : mask ++ (" ".toList ++ right) = mask ++ [' '] ++ right := by simp
              rw [shown, Node.depth, Nat.add_zero, Nat.max_eq_right least, List.append_assoc,
                deepest_group_plain _ _ _ _ _ leftFree, condition_nesting leaf _ _ _ _ condition]
              simp
  | group logic own nodes =>
      rw [nodeFragment] at masked
      obtain ⟨front, back, rfl, frontMasked, backMasked⟩ := Fragment.masked_append masked
      cases frontMasked with
      | text s children =>
          rename_i inner
          rw [Fragment.masked_text backMasked, Node.depth]
          exact enclosed_nesting width (depth + 1) opened (Node.maxDepth nodes) before inner rest noList
            fun seen later noListSeen =>
              nodes_nesting transformer width (depth + 1) own logic nodes (opened + 1) seen inner later noListSeen
                children
theorem nodes_nesting (transformer : Option (Transformer F)) (width depth : Nat) (fieldPrefix : Option String)
    (logic : Logic) (nodes : List (Node F)) (opened : Nat) (before text rest : List Char)
    (noList : before.take 3 ≠ [' ', 'n', 'i'])
    (masked : Fragment.Masked ([Piece.text (separator logic depth width)].intercalate
      (nodeFragments transformer width depth fieldPrefix nodes)) text) :
    deepestGroup opened false before (text ++ rest) =
      max (opened + Node.maxDepth nodes) (deepestGroup opened false (text.reverse ++ before) rest) := by
  cases nodes with
  | nil =>
      cases masked
      exact (Nat.max_eq_right (opened_le_deepest_group opened false _ rest)).symm
  | cons node nodes =>
      cases nodes with
      | nil =>
          rw [nodeFragments, nodeFragments, List.intercalate_singleton] at masked
          rw [Node.maxDepth, Node.maxDepth, Nat.max_zero]
          exact node_nesting transformer width depth fieldPrefix node opened before text rest noList masked
      | cons next nodes =>
          rw [nodeFragments, nodeFragments, List.intercalate_cons_cons, ← nodeFragments, List.append_assoc] at masked
          obtain ⟨head, tail, rfl, headMasked, tailMasked⟩ := Fragment.masked_append masked
          cases tailMasked with
          | text s others =>
              rename_i more
              have deeper : Node.maxDepth (node :: next :: nodes) =
                  max node.depth (Node.maxDepth (next :: nodes)) := rfl
              rw [List.append_assoc, List.append_assoc,
                node_nesting transformer width depth fieldPrefix node _ _ _ _ noList headMasked,
                deepest_group_plain _ _ _ _ _ (without_separator (by decide) (by decide) _ _ _),
                nodes_nesting transformer width depth fieldPrefix logic (next :: nodes) _ _ _ _
                  (group_after_separator _ _ _ _) others, deeper]
              simp only [List.reverse_append, List.append_assoc]
              omega
end

-- However the left-hand sides and operands are put, as long as they bring no parentheses of their own.
theorem fragment_nesting (options : RenderOptions F) (root : Node F) (text : List Char)
    (masked : (fragment options root).Masked text) : groupNesting text = root.depth := by
  have nesting := node_nesting options.transformer options.indentation 0 none root 0 [] text [] (by simp) masked
  rw [List.append_nil, deepestGroup, Nat.max_zero, Nat.zero_add] at nesting
  exact nesting

theorem fragment_conditions (options : RenderOptions F) (root : Node F) :
    (fragment options root).lefts.length = root.leafCount := by
  rw [fragment_lefts, leftTokens, List.length_map, Node.leaf_count_eq, ← Node.placed_leaves none, List.length_map]

def beginning (options : RenderOptions F) : Encoding :=
  if options.useParameters then .bound (.startingAt options.start) else .literal

/-- How many conditions were written into the SQL of a tree, and how deep its groups are nested. Left-hand sides and
operands may hold parentheses of their own, so the text is looked at without them; it need not be where they hold
none, and where they are all behind quotes or placeholders. -/
structure Shows (options : RenderOptions F) (root : Node F) (sql : String) (count depth : Nat) : Prop where
  written : sql = ((fragment options root).write (beginning options)).1
  conditions : (fragment options root).lefts.length = count
  nesting : groupNesting (fragment options root).own = depth
  unparenthesised :
    (∀ token ∈ leftTokens options.transformer root, Unparenthesised token.toList) →
      (options.useParameters = true ∨
        ∀ leaf ∈ root.leaves, ∀ value ∈ leaf.operands, Unparenthesised (literal value (isQuoted leaf)).toList) →
      groupNesting sql.toList = depth
  quoted : options.transformer = some quoteIdentifiers → options.useParameters = true →
    groupNesting (readIdentifiers .outside sql.toList).outside = depth

theorem rendered_output (options : RenderOptions F) (root : Node F) (positive : options.start ≠ 0) :
    (render (some root) options).map Output.sql =
      guarded (firstError? root) (some ((fragment options root).write (beginning options)).1) := by
  unfold render beginning
  cases options.useParameters with
  | true =>
      rw [if_pos rfl, if_pos rfl, render_parameterized_write root options positive]
      cases firstError? root <;> rfl
  | false =>
      rw [if_neg Bool.false_ne_true, if_neg Bool.false_ne_true, render_inline_write]
      cases firstError? root <;> rfl

theorem written_unparenthesised (options : RenderOptions F) (root : Node F)
    (lefts : ∀ token ∈ leftTokens options.transformer root, Unparenthesised token.toList)
    (literals : options.useParameters = true ∨
      ∀ leaf ∈ root.leaves, ∀ value ∈ leaf.operands, Unparenthesised (literal value (isQuoted leaf)).toList) :
    (fragment options root).Masked ((fragment options root).write (beginning options)).1.toList := by
  rw [← fragment_lefts options] at lefts
  unfold beginning
  cases mode : options.useParameters with
  | true =>
      have masked := Fragment.masked_bound (fragment options root) id lefts (.startingAt options.start)
      rwa [Fragment.write_chars, Fragment.chars_strip, ← Fragment.write_chars] at masked
  | false =>
      refine Fragment.masked_literals _ lefts fun text member => ?_
      rw [fragment_literals] at member
      obtain ⟨leaf, leafMember, ofLeaf⟩ := List.mem_flatMap.mp member
      obtain ⟨value, valueMember, rfl⟩ := List.mem_map.mp ofLeaf
      exact literals.resolve_left (by simp [mode]) leaf leafMember value valueMember

theorem read_quoted_left (options : RenderOptions F) (root : Node F)
    (quoting : options.transformer = some quoteIdentifiers) (token : String)
    (member : token ∈ (fragment options root).lefts) :
    ∃ parts identifiers, readIdentifiers .outside token.toList = ⟨(dots parts).toList, identifiers, true⟩ := by
  rw [fragment_lefts, quoting] at member
  obtain ⟨place, _, rfl⟩ := List.mem_map.mp member
  exact ⟨_, _, read_left place.1 place.2⟩

theorem quoted_masked (options : RenderOptions F) (root : Node F)
    (quoting : options.transformer = some quoteIdentifiers) (bound : options.useParameters = true) :
    (fragment options root).Masked
      (readIdentifiers .outside ((fragment options root).write (beginning options)).1.toList).outside := by
  have closed : ∀ token ∈ (fragment options root).lefts, (readIdentifiers .outside token.toList).closed = true := by
    intro token member
    obtain ⟨parts, identifiers, read⟩ := read_quoted_left options root quoting token member
    rw [read]
  have written := Fragment.read_written (fragment options root) (node_plain _ _ _ _ root) (node_delimited _ _ _ _ root)
    closed (.startingAt options.start) (.startingAt options.start) rfl
  rw [beginning, if_pos bound, written]
  refine Fragment.masked_bound _ _ (fun token member => ?_) _
  obtain ⟨parts, identifiers, read⟩ := read_quoted_left options root quoting token member
  rw [Fragment.unquoted, read, dots]
  intro c dot
  obtain rfl : c = '.' := by simpa using List.eq_of_mem_replicate (by simpa using dot)
  decide

theorem rendered_shows (options : RenderOptions F) (root : Node F) (positive : options.start ≠ 0)
    (sound : firstError? root = none) :
    ∃ output sql, render (some root) options = .ok output ∧ output.sql = some sql ∧
      Shows options root sql root.leafCount root.depth := by
  have shown := rendered_output options root positive
  rw [sound] at shown
  cases rendered : render (some root) options with
  | error e => simp [rendered, Except.map, guarded] at shown
  | ok output =>
      rw [rendered] at shown
      refine ⟨output, _, rfl, Except.ok.inj shown, rfl, fragment_conditions options root,
        fragment_nesting options root _ (Fragment.masked_own _), fun lefts literals => ?_, fun quoting bound => ?_⟩
      · exact fragment_nesting options root _ (written_unparenthesised options root lefts literals)
      · exact fragment_nesting options root _ (quoted_masked options root quoting bound)

end SqlFilter.Sql
