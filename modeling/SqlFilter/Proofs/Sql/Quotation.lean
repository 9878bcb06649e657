import Mathlib.Data.List.Forall2
import SqlFilter.Proofs.Sql.Independence
import SqlFilter.Proofs.Sql.LeftTokens
import SqlFilter.Proofs.Sql.Modes
import SqlFilter.Proofs.Sql.Punctuation

/-!
# Literals in single quotes

The SQL with literals, cut at its quote characters. Literals hold their quotes doubled, so the pieces alternate between
what the renderer writes of itself and what stands in a literal.
-/

set_option autoImplicit false

namespace SqlFilter.Sql

-- The elements at even positions, counting from zero. Those at odd positions are at even ones in the tail.
def evens {α : Type} : List α → List α
  | [] => []
  | [a] => [a]
  | a :: _ :: rest => a :: evens rest

theorem evens_cons {α : Type} (a : α) (rest : List α) : evens (a :: rest) = a :: evens rest.tail := by
  cases rest <;> rfl

theorem evens_modify_head {α : Type} (f : α → α) (items : List α) :
    evens (items.modifyHead f) = (evens items).modifyHead f := by
  cases items with
  | nil => rfl
  | cons a rest => rw [List.modifyHead_cons, evens_cons, evens_cons, List.modifyHead_cons]

/-- A text cut at its quotes: the pieces are by turns outside of quotations and inside, and the last is outside again.
-/
structure CutAtQuotes (text : List Char) (outside inside : List (List Char)) : Prop where
  pieces : (text.splitOn '\'').length = 2 * inside.length + 1
  outside : evens (text.splitOn '\'') = outside
  inside : evens (text.splitOn '\'').tail = inside

theorem split_append_free (front rest : List Char) (free : '\'' ∉ front) :
    (front ++ rest).splitOn '\'' = (rest.splitOn '\'').modifyHead (front ++ ·) := by
  induction front with
  | nil => exact (congrFun List.modifyHead_id _).symm
  | cons c front ih =>
      obtain ⟨noQuote, others⟩ := not_or.mp (List.mem_cons.not.mp free)
      rw [List.cons_append, List.splitOn_cons_eq_if_modifyHead, if_neg (by simpa using Ne.symm noQuote), ih others,
        List.modifyHead_modifyHead]
      rfl

theorem cut_free (text : List Char) (free : '\'' ∉ text) : CutAtQuotes text [text] [] := by
  have single := split_append_free text [] free
  rw [List.append_nil] at single
  refine ⟨?_, ?_, ?_⟩ <;> simp [single, evens]

theorem cut_append {front rest : List Char} {outside inside : List (List Char)} (free : '\'' ∉ front)
    (cut : CutAtQuotes rest outside inside) : CutAtQuotes (front ++ rest) (outside.modifyHead (front ++ ·)) inside := by
  have split := split_append_free front rest free
  obtain ⟨pieces, rfl, rfl⟩ := cut
  refine ⟨?_, ?_, ?_⟩
  · rw [split, List.length_modifyHead, pieces]
  · rw [split, evens_modify_head]
  · rw [split, List.tail_modifyHead]

theorem cut_quotation {front quoted rest : List Char} {outside inside : List (List Char)} (frontFree : '\'' ∉ front)
    (quotedFree : '\'' ∉ quoted) (cut : CutAtQuotes rest outside inside) :
    CutAtQuotes (front ++ '\'' :: (quoted ++ '\'' :: rest)) (front :: outside) (quoted :: inside) := by
  have split : (front ++ '\'' :: (quoted ++ '\'' :: rest)).splitOn '\'' = front :: quoted :: rest.splitOn '\'' := by
    rw [List.splitOn_append_cons_self_of_not_mem frontFree, List.splitOn_append_cons_self_of_not_mem quotedFree]
  obtain ⟨pieces, rfl, rfl⟩ := cut
  refine ⟨?_, ?_, ?_⟩
  · rw [split, List.length_cons, List.length_cons, pieces, List.length_cons]
    omega
  · rw [split, evens_cons, List.tail_cons]
  · rw [split, List.tail_cons, evens_cons]

-- An operand as a literal: its text stands in quotes, or by itself.
inductive Filler where
  | quoted (text : String)
  | bare (text : String)

namespace Filler

def text : Filler → String
  | .quoted text | .bare text => text

def written : Filler → String
  | .quoted text => "'" ++ text ++ "'"
  | .bare text => text

def inside? : Filler → Option (List Char)
  | .quoted text => some text.toList
  | .bare _ => none

def outside? : Filler → Option String
  | .quoted _ => none
  | .bare text => some text

end Filler

-- What stands outside of quotations when gaps and literals take turns. Of a quoted literal it shows only the place.
def outsidePieces : List String → List (Option String) → List (List Char)
  | [], _ => [[]]
  | gap :: _, [] => [gap.toList]
  | gap :: gaps, none :: shown => gap.toList :: outsidePieces gaps shown
  | gap :: gaps, some text :: shown => (outsidePieces gaps shown).modifyHead (gap.toList ++ text.toList ++ ·)

theorem weave_cut (gaps : List String) (fillers : List Filler) (gapsFree : ∀ gap ∈ gaps, '\'' ∉ gap.toList)
    (fillersFree : ∀ filler ∈ fillers, '\'' ∉ filler.text.toList) (count : gaps.length = fillers.length + 1) :
    CutAtQuotes (weave gaps (fillers.map Filler.written)).toList (outsidePieces gaps (fillers.map Filler.outside?))
      (fillers.filterMap Filler.inside?) := by
  induction fillers generalizing gaps with
  | nil =>
      obtain ⟨gap, rfl⟩ := List.length_eq_one_iff.mp count
      exact cut_free _ (gapsFree gap List.mem_cons_self)
  | cons filler fillers ih =>
      cases gaps with
      | nil => cases count
      | cons gap gaps =>
          rw [List.forall_mem_cons] at gapsFree fillersFree
          have later := ih gaps gapsFree.2 fillersFree.2 (Nat.succ.inj count)
          cases filler with
          | quoted text =>
              have cut := cut_quotation gapsFree.1 fillersFree.1 later
              simpa [weave, Filler.written, Filler.text, Filler.outside?, Filler.inside?, outsidePieces] using cut
          | bare text =>
              have free : '\'' ∉ gap.toList ++ text.toList :=
                List.mem_append.not.mpr (not_or.mpr ⟨gapsFree.1, fillersFree.1⟩)
              have cut := cut_append free later
              rw [List.filterMap_cons_none rfl]
              simpa [weave, Filler.written, Filler.outside?, outsidePieces] using cut

theorem gaps_free (fragment : Fragment) (plain : fragment.Plain) (lefts : ∀ s ∈ fragment.lefts, '\'' ∉ s.toList) :
    ∀ gap ∈ fragment.gaps, '\'' ∉ gap.toList := by
  induction fragment with
  | nil => simp [Fragment.gaps]
  | cons piece rest ih =>
      have later := ih (fun s member => plain s (List.mem_cons_of_mem _ member))
      have grown (s : String) (free : '\'' ∉ s.toList) (others : ∀ gap ∈ Fragment.gaps rest, '\'' ∉ gap.toList) :
          ∀ gap ∈ (Fragment.gaps rest).modifyHead (s ++ ·), '\'' ∉ gap.toList := by
        cases gaps : Fragment.gaps rest with
        | nil => exact List.forall_mem_nil _
        | cons gap gaps =>
            rw [gaps, List.forall_mem_cons] at others
            rw [List.modifyHead_cons, List.forall_mem_cons, String.toList_append, List.mem_append, not_or]
            exact ⟨⟨free, others.1⟩, others.2⟩
      cases piece with
      | text s => exact grown s (fun member => plain s List.mem_cons_self _ member (by decide)) (later lefts)
      | left s =>
          have lefts : ∀ t ∈ s :: Fragment.lefts rest, '\'' ∉ t.toList := lefts
          rw [List.forall_mem_cons] at lefts
          exact grown s lefts.1 (later lefts.2)
      | operand quoted value => exact List.forall_mem_cons.mpr ⟨by simp, later lefts⟩

variable {F : Type}

def filler (leaf : Leaf F) (value : Value) : Filler :=
  if ReadsAsText leaf then .quoted value.display else .bare value.display

def fillers (root : Node F) : List Filler :=
  root.leaves.flatMap fun leaf => leaf.operands.map (filler leaf)

theorem filler_text (leaf : Leaf F) (value : Value) : (filler leaf value).text = value.display := by
  unfold filler
  split <;> rfl

theorem filler_written (leaf : Leaf F) (value : Value) : (filler leaf value).written = delimited leaf value := by
  unfold filler delimited
  split <;> rfl

-- The texts of the operands that are quoted, in their order.
def quotedTexts (root : Node F) : List (List Char) :=
  root.leaves.flatMap fun leaf => if ReadsAsText leaf then leaf.operands.map fun value => value.display.toList else []

theorem fillers_inside (root : Node F) : (fillers root).filterMap Filler.inside? = quotedTexts root := by
  rw [fillers, List.filterMap_flatMap, quotedTexts]
  congr 1
  funext leaf
  rw [List.filterMap_map]
  by_cases text : ReadsAsText leaf <;> simp [filler, Filler.inside?, Function.comp_def, text]

theorem fillers_written (root : Node F) :
    (fillers root).map Filler.written = root.leaves.flatMap fun leaf => leaf.operands.map (delimited leaf) := by
  simp [fillers, List.map_flatMap, filler_written, Function.comp_def]

-- Conditions that read alike outside of quotations: their operands are quoted in both, or they are the same.
def AlikeOutside (leaf other : Leaf F) : Prop :=
  (ReadsAsText leaf ↔ ReadsAsText other) ∧ (¬ReadsAsText leaf → leaf.operands = other.operands)

theorem alike_fillers {leaf other : Leaf F} (alike : AlikeOutside leaf other)
    (count : leaf.operands.length = other.operands.length) :
    (leaf.operands.map (filler leaf)).map Filler.outside? =
      (other.operands.map (filler other)).map Filler.outside? := by
  by_cases text : ReadsAsText leaf
  · have hidden (leaf : Leaf F) (text : ReadsAsText leaf) :
        (leaf.operands.map (filler leaf)).map Filler.outside? = List.replicate leaf.operands.length none := by
      simp [filler, Filler.outside?, text, Function.comp_def, List.map_const']
    rw [hidden leaf text, hidden other (alike.1.mp text), count]
  · have otherText : ¬ReadsAsText other := alike.1.not.mp text
    rw [alike.2 text]
    simp [filler, text, otherText]

mutual
theorem corresponds_leaves (node other : Node F) (alike : node.Corresponds other) :
    List.Forall₂ Leaf.Corresponds node.leaves other.leaves := by
  cases alike with
  | leaf alike => exact .cons alike .nil
  | group alike => exact corresponds_leaves_of _ _ alike
theorem corresponds_leaves_of (nodes others : List (Node F)) (alike : Node.AllCorrespond nodes others) :
    List.Forall₂ Leaf.Corresponds (Node.leavesOf nodes) (Node.leavesOf others) := by
  cases alike with
  | nil => exact .nil
  | cons head tail => exact List.rel_append (corresponds_leaves _ _ head) (corresponds_leaves_of _ _ tail)
end

theorem fillers_alike {leaves others : List (Leaf F)} (same : List.Forall₂ Leaf.Corresponds leaves others)
    (outside : List.Forall₂ AlikeOutside leaves others) :
    (leaves.flatMap fun leaf => leaf.operands.map (filler leaf)).map Filler.outside? =
      (others.flatMap fun leaf => leaf.operands.map (filler leaf)).map Filler.outside? := by
  induction outside with
  | nil => rfl
  | cons head _ ih =>
      cases same with
      | cons leaf tail =>
          rw [List.flatMap_cons, List.flatMap_cons, List.map_append, List.map_append,
            alike_fillers head (Leaf.corresponds_operands leaf), ih tail]

variable [FieldName F]

/-- No quote comes from a left-hand side or from an operand. -/
def QuoteFree (transformer : Option (Transformer F)) (root : Node F) : Prop :=
  (∀ token ∈ leftTokens transformer root, '\'' ∉ token.toList) ∧
    ∀ leaf ∈ root.leaves, ∀ value ∈ leaf.operands, '\'' ∉ value.display.toList

instance (transformer : Option (Transformer F)) (root : Node F) : Decidable (QuoteFree transformer root) :=
  inferInstanceAs (Decidable (_ ∧ _))

theorem render_inline_fillers (root : Node F) (options : RenderOptions F) :
    renderInline (some root) options =
      guarded (firstError? root) (some (weave (fragment options root).gaps ((fillers root).map Filler.written))) := by
  have literals : (fragment options root).literals = (fillers root).map Filler.written := by
    rw [fragment_literals, fillers_written]
    simp only [literal_delimited]
  rw [render_inline_eq, literals]

theorem rendered_inline {root : Node F} {options : RenderOptions F} {sql : String}
    (rendered : renderInline (some root) options = .ok (some sql)) :
    firstError? root = none ∧ sql = weave (fragment options root).gaps ((fillers root).map Filler.written) := by
  rw [render_inline_fillers] at rendered
  cases failure : firstError? root with
  | some e =>
      rw [failure] at rendered
      cases rendered
  | none =>
      rw [failure] at rendered
      cases rendered
      exact ⟨rfl, rfl⟩

theorem inline_cut (root : Node F) (options : RenderOptions F) (free : QuoteFree options.transformer root) :
    CutAtQuotes (weave (fragment options root).gaps ((fillers root).map Filler.written)).toList
      (outsidePieces (fragment options root).gaps ((fillers root).map Filler.outside?)) (quotedTexts root) := by
  have gapsFree := gaps_free (fragment options root) (node_plain _ _ _ _ root) (by rw [fragment_lefts]; exact free.1)
  have fillersFree : ∀ filler ∈ fillers root, '\'' ∉ filler.text.toList := by
    intro filler member
    obtain ⟨leaf, inTree, operand⟩ := List.mem_flatMap.mp member
    obtain ⟨value, inLeaf, rfl⟩ := List.mem_map.mp operand
    rw [filler_text]
    exact free.2 leaf inTree value inLeaf
  have count : (fragment options root).gaps.length = (fillers root).length + 1 := by
    rw [Fragment.gaps_length, fragment_operands]
    simp [fillers, List.length_flatMap]
  rw [← fillers_inside]
  exact weave_cut _ _ gapsFree fillersFree count

-- Trees of one outline have the same gaps as soon as their left-hand sides are the same.
theorem corresponding_gaps (root other : Node F) (options : RenderOptions F) (alike : root.Corresponds other)
    (lefts : leftTokens options.transformer root = leftTokens options.transformer other) :
    (fragment options root).gaps = (fragment options other).gaps := by
  have emptied (node : Node F) : ((fragment options node).strip id).map Piece.unlabelled =
      (outline (fun _ _ => ()) none node).fragment (fun _ => "") options.indentation 0 := by
    rw [← node_strip options.transformer (fun _ => "") (fun _ _ => ()) (fun _ => "") (fun _ _ => rfl)
      options.indentation 0 none node, Fragment.strip, Fragment.strip, List.map_map]
    refine List.map_congr_left fun piece _ => ?_
    cases piece <;> rfl
  have kept (node : Node F) :
      Fragment.lefts ((fragment options node).strip id) = leftTokens options.transformer node := by
    rw [← fragment_lefts, Fragment.lefts, Fragment.lefts, Fragment.strip, List.filterMap_map]
    congr 1
    funext piece
    cases piece <;> rfl
  have outlines := corresponds_outline (fun _ _ => ()) (fun _ _ _ _ => rfl) none root other alike
  have stripped : (fragment options root).strip id = (fragment options other).strip id :=
    fragment_of_lefts _ _ (by rw [emptied, emptied, outlines]) (by rw [kept, kept, lefts])
  rw [← Fragment.gaps_strip, stripped, Fragment.gaps_strip]

/-- Trees that differ in nothing but operands that are quoted in both. -/
structure DifferInside (transformer : Option (Transformer F)) (root other : Node F) : Prop where
  tests : root.Corresponds other
  lefts : leftTokens transformer root = leftTokens transformer other
  operands : List.Forall₂ AlikeOutside root.leaves other.leaves

/-- As long as no quote comes from elsewhere, the quotes of the SQL delimit the operands that read as text and nothing
else, and what stands around them cannot tell what they are. -/
theorem quotes_delimit_text (root : Node F) (options : RenderOptions F) (sql : String)
    (free : QuoteFree options.transformer root) (rendered : renderInline (some root) options = .ok (some sql)) :
    ∃ outside, CutAtQuotes sql.toList outside (quotedTexts root) ∧
      ∀ other, DifferInside options.transformer root other → QuoteFree options.transformer other →
        ∃ otherSql, renderInline (some other) options = .ok (some otherSql) ∧
          CutAtQuotes otherSql.toList outside (quotedTexts other) := by
  obtain ⟨sound, rfl⟩ := rendered_inline rendered
  refine ⟨_, inline_cut root options free, fun other inside otherFree => ?_⟩
  have otherRendered := render_inline_fillers other options
  rw [← corresponds_first_error root other inside.tests, sound] at otherRendered
  have gaps := corresponding_gaps root other options inside.tests inside.lefts
  have shown : (fillers root).map Filler.outside? = (fillers other).map Filler.outside? :=
    fillers_alike (corresponds_leaves root other inside.tests) inside.operands
  rw [gaps, shown]
  exact ⟨_, otherRendered, inline_cut other options otherFree⟩

def mixedFilter : Node String :=
  .group .or (some "u.") [.leaf ⟨"day", .between, .array [.string "today", .int 1], some .epoch⟩,
    .group .and none [.leaf (.of "tag" .isIn (.array [.string "a, b", .null, .array [.int 2, .bool true]])),
      .leaf ⟨"gone", .eq, .null, some .string⟩, .leaf (.of "age" .gt (.int 7))],
    .leaf ⟨"flag", .ne, .bool false, some .string⟩]

def remixedFilter : Node String :=
  .group .or (some "u.") [.leaf ⟨"day", .between, .array [.int 3, .string ") or (1=1"], some .epoch⟩,
    .group .and none [.leaf (.of "tag" .isIn (.array [.string "", .string "$1", .bool true])),
      .leaf ⟨"gone", .eq, .null, some .string⟩, .leaf (.of "age" .gt (.int 7))],
    .leaf ⟨"flag", .ne, .string "\"", some .string⟩]

theorem mixed_filters_cut_alike :
    ∃ sql otherSql outside,
      renderInline (some mixedFilter) { transformer := some quoteIdentifiers, indentation := 2 } = .ok (some sql) ∧
      CutAtQuotes sql.toList outside (["today", "1", "a, b", "null", "2,true", "false"].map String.toList) ∧
      renderInline (some remixedFilter) { transformer := some quoteIdentifiers, indentation := 2 } =
        .ok (some otherSql) ∧
      CutAtQuotes otherSql.toList outside (["3", ") or (1=1", "", "$1", "true", "\""].map String.toList) := by
  have texts : quotedTexts mixedFilter = ["today", "1", "a, b", "null", "2,true", "false"].map String.toList := by
    decide +kernel
  have otherTexts : quotedTexts remixedFilter = ["3", ") or (1=1", "", "$1", "true", "\""].map String.toList := by
    decide +kernel
  have quoted {leaf other : Leaf String} (text : ReadsAsText leaf ∧ ReadsAsText other) : AlikeOutside leaf other :=
    ⟨iff_of_true text.1 text.2, fun bare => absurd text.1 bare⟩
  have same (leaf : Leaf String) : AlikeOutside leaf leaf := ⟨Iff.rfl, fun _ => rfl⟩
  have inside : DifferInside (some quoteIdentifiers) mixedFilter remixedFilter := by
    refine ⟨?_, by decide +kernel, ?_⟩
    · exact .group (.cons (.leaf ⟨rfl, rfl, rfl⟩) (.cons (.group (.cons (.leaf ⟨rfl, rfl, rfl⟩)
        (.cons (.leaf ⟨rfl, rfl, trivial⟩) (.cons (.leaf ⟨rfl, rfl, trivial⟩) .nil))))
        (.cons (.leaf ⟨rfl, rfl, trivial⟩) .nil)))
    · exact .cons (quoted (by decide)) (.cons (quoted (by decide)) (.cons (same _) (.cons (same _)
        (.cons (quoted (by decide)) .nil))))
  obtain ⟨outside, cut, others⟩ := quotes_delimit_text mixedFilter
    { transformer := some quoteIdentifiers, indentation := 2 } _ (by decide +kernel) rfl
  obtain ⟨otherSql, otherRendered, otherCut⟩ := others remixedFilter inside (by decide +kernel)
  exact ⟨_, otherSql, outside, rfl, texts ▸ cut, otherRendered, otherTexts ▸ otherCut⟩

end SqlFilter.Sql
