import SqlFilter.Proofs.Sql.Numbering
import SqlFilter.Proofs.Sql.Outline

/-!
# Quoted identifiers are read back

A scanner for identifiers in double quotes finds in the SQL the segments that the left-hand sides were made of, whatever
characters these hold, and around them a text that does not depend on them.
-/

set_option autoImplicit false

namespace SqlFilter.Sql

-- Where a scanner of quoted identifiers is. After a quote inside an identifier only the next character tells whether
-- the identifier has ended.
inductive Place
  | outside
  | inside (name : List Char)
  | ending (name : List Char)

structure Reading where
  outside : List Char
  identifiers : List (List Char)
  closed : Bool

namespace Reading

def keep (c : Char) (reading : Reading) : Reading :=
  { reading with outside := c :: reading.outside }

def identifier (name : List Char) (reading : Reading) : Reading :=
  { reading with identifiers := name :: reading.identifiers }

def followedBy (first second : Reading) : Reading :=
  ⟨first.outside ++ second.outside, first.identifiers ++ second.identifiers, second.closed⟩

end Reading

def readIdentifiers : Place → List Char → Reading
  | .outside, [] => ⟨[], [], true⟩
  | .inside _, [] => ⟨[], [], false⟩
  | .ending name, [] => ⟨[], [name], true⟩
  | .outside, c :: rest =>
      if c = '"' then readIdentifiers (.inside []) rest else (readIdentifiers .outside rest).keep c
  | .inside name, c :: rest =>
      if c = '"' then readIdentifiers (.ending name) rest else readIdentifiers (.inside (name ++ [c])) rest
  | .ending name, c :: rest =>
      if c = '"' then readIdentifiers (.inside (name ++ ['"'])) rest
      else ((readIdentifiers .outside rest).keep c).identifier name

-- A text that ends outside an identifier is read by itself, unless the quote that ends it is doubled by the next text.
theorem read_append (place : Place) (text rest : List Char) (closed : (readIdentifiers place text).closed = true)
    (undoubled : rest.head? ≠ some '"') :
    readIdentifiers place (text ++ rest) = (readIdentifiers place text).followedBy (readIdentifiers .outside rest) := by
  induction text generalizing place with
  | nil =>
      cases place with
      | outside => rfl
      | inside name => simp [readIdentifiers] at closed
      | ending name =>
          cases rest with
          | nil => rfl
          | cons c rest =>
              have other : c ≠ '"' := fun same => undoubled (congrArg some same)
              simp [readIdentifiers, other, Reading.followedBy, Reading.keep, Reading.identifier]
  | cons c text ih =>
      by_cases quote : c = '"'
      · cases place <;> simp only [List.cons_append, readIdentifiers, if_pos quote] at closed ⊢ <;> exact ih _ closed
      · cases place with
        | inside name =>
            simp only [List.cons_append, readIdentifiers, if_neg quote] at closed ⊢
            exact ih _ closed
        | outside | ending name =>
            simp only [List.cons_append, readIdentifiers, if_neg quote] at closed ⊢
            rw [ih .outside closed]
            rfl

theorem read_plain (text rest : List Char) (plain : '"' ∉ text) :
    readIdentifiers .outside (text ++ rest) = Reading.followedBy ⟨text, [], true⟩ (readIdentifiers .outside rest) := by
  induction text with
  | nil => rfl
  | cons c text ih =>
      have other : c ≠ '"' := fun same => plain (same ▸ List.mem_cons_self)
      rw [List.cons_append, readIdentifiers, if_neg other, ih fun member => plain (List.mem_cons_of_mem _ member)]
      rfl

theorem read_inside (name segment : List Char) :
    readIdentifiers (.inside name) (segment.flatMap (fun c => if c = '"' then ['"', '"'] else [c]) ++ ['"']) =
      ⟨[], [name ++ segment], true⟩ := by
  induction segment generalizing name with
  | nil => simp [readIdentifiers]
  | cons c segment ih =>
      by_cases quote : c = '"'
      · rw [List.flatMap_cons, if_pos quote, List.append_assoc, quote]
        simp [readIdentifiers, ih]
      · rw [List.flatMap_cons, if_neg quote, List.append_assoc]
        simp [readIdentifiers, quote, ih]

theorem read_quoted (segment : List Char) :
    readIdentifiers .outside (quoteIdentifier segment) = ⟨[], [segment], true⟩ := by
  rw [quoteIdentifier, List.cons_append, readIdentifiers, if_pos rfl]
  exact read_inside [] segment

theorem read_quoted_segments (segments : List (List Char)) :
    readIdentifiers .outside (['.'].intercalate (segments.map quoteIdentifier)) =
      ⟨List.replicate (segments.length - 1) '.', segments, true⟩ := by
  induction segments with
  | nil => rfl
  | cons segment others ih =>
      cases others with
      | nil => simp [read_quoted]
      | cons next others =>
          have dot : readIdentifiers .outside
              ('.' :: ['.'].intercalate ((next :: others).map quoteIdentifier)) =
                ⟨'.' :: List.replicate others.length '.', next :: others, true⟩ := by
            rw [readIdentifiers, if_neg (by decide), ih]
            rfl
          rw [List.map_cons, List.map_cons, List.intercalate_cons_cons, List.append_assoc, ← List.map_cons,
            read_append _ _ _ (by rw [read_quoted]) (by simp), read_quoted, List.singleton_append, dot]
          rfl

namespace Fragment

def unquoted (token : String) : String :=
  String.ofList (readIdentifiers .outside token.toList).outside

theorem breaks_unquoted (fragment : Fragment) (plain : fragment.Plain) (breaks : fragment.Breaks)
    (encoding : Encoding) : (fragment.write encoding).1.toList.head? ≠ some '"' := by
  cases fragment with
  | nil => simp [write]
  | cons piece rest =>
      cases piece with
      | text s =>
          obtain ⟨c, tail, chars, _⟩ := breaks
          have other : c ≠ '"' := by
            rintro rfl
            exact plain s List.mem_cons_self '"' (by simp [chars]) (by decide)
          simpa [write, chars] using other
      | left s | operand quoted value => exact breaks.elim

-- Text and placeholders have no quotes of their own, so what the scanner leaves outside is the fragment without its
-- operands and without the insides of its left-hand sides. The induction runs over both stores, which agree in number.
theorem read_written (fragment : Fragment) (plain : fragment.Plain) (delimited : fragment.Delimited)
    (closed : ∀ token ∈ fragment.lefts, (readIdentifiers .outside token.toList).closed = true)
    (store other : Bindings) (same : store.next = other.next) :
    readIdentifiers .outside (fragment.write (.bound store)).1.toList =
      ⟨((fragment.strip unquoted).write (.bound other)).1.toList,
        fragment.lefts.flatMap fun token => (readIdentifiers .outside token.toList).identifiers, true⟩ := by
  induction fragment generalizing store other with
  | nil => rfl
  | cons piece rest ih =>
      have restPlain : Plain rest := fun s member => plain s (List.mem_cons_of_mem _ member)
      cases piece with
      | text s =>
          have silent : '"' ∉ s.toList := fun member => plain s List.mem_cons_self '"' member (by decide)
          have later := ih restPlain delimited closed store other same
          rw [write, String.toList_append, read_plain _ _ silent, later]
          simp [Reading.followedBy, strip, Piece.strip, write, lefts, List.filterMap_cons, Piece.left?]
      | left s =>
          have own := closed s List.mem_cons_self
          have later := ih restPlain delimited.2 (fun token member => closed token (List.mem_cons_of_mem _ member))
            store other same
          have undoubled := breaks_unquoted rest restPlain delimited.1 (.bound store)
          rw [write, String.toList_append, read_append _ _ _ own undoubled, later]
          simp [Reading.followedBy, strip, Piece.strip, write, unquoted, lefts, Piece.left?]
      | operand quoted value =>
          have later := ih restPlain delimited.2 closed (store.bind value).2 (other.bind .null).2
            (by simp [Bindings.bind, same])
          have unquoted : Without ['"'] (placeholder store.next).toList := without_placeholder (by decide) store.next
          have silent : '"' ∉ (placeholder store.next).toList := fun member => unquoted _ member List.mem_cons_self
          simp only [write, Encoding.take, String.toList_append] at later ⊢
          rw [show (store.bind value).1 = placeholder store.next from rfl, read_plain _ _ silent, later]
          simp [Reading.followedBy, strip, Piece.strip, hole, write, Encoding.take, lefts, List.filterMap_cons,
            Piece.left?, Bindings.bind, same]

end Fragment

variable {F G : Type} [FieldName F] [FieldName G]

def quoting (width : Nat) (start : UInt64) : RenderOptions F :=
  { transformer := some quoteIdentifiers, indentation := width, start }

-- What the quoted paths of a tree leave of it: the number of parts of each, and no character.
def skeleton (root : Node F) : Outline Nat :=
  outline (fun leaf fieldPrefix => (segments (path leaf fieldPrefix).toList).length) none root

def dots (parts : Nat) : String :=
  String.ofList (List.replicate (parts - 1) '.')

theorem read_left (leaf : Leaf F) (fieldPrefix : Option String) :
    readIdentifiers .outside (left (some quoteIdentifiers) leaf fieldPrefix).toList =
      ⟨(dots (segments (path leaf fieldPrefix).toList).length).toList, segments (path leaf fieldPrefix).toList,
        true⟩ := by
  simp [left, quoteIdentifiers, read_quoted_segments, dots]

def skeletonText (width : Nat) (start : UInt64) (skeleton : Outline Nat) : List Char :=
  ((skeleton.fragment dots width 0).write (.bound (.startingAt start))).1.toList

theorem read_rendered (root : Node F) (width : Nat) (start : UInt64) (result : BoundSql)
    (rendered : renderParameterized (some root) (quoting width start) = .ok result) :
    ∃ sql, result.sql = some sql ∧
      readIdentifiers .outside sql.toList =
        ⟨skeletonText width start (skeleton root),
          (root.placed none).flatMap fun place => segments (path place.1 place.2).toList, true⟩ := by
  obtain ⟨_, _, sql, _⟩ := rendered_parameterized rendered
  refine ⟨_, sql, ?_⟩
  have lefts : (fragment (quoting width start) root).lefts = leftTokens (some quoteIdentifiers) root :=
    fragment_lefts _ root
  have closed : ∀ token ∈ (fragment (quoting width start) root).lefts,
      (readIdentifiers .outside token.toList).closed = true := by
    intro token member
    rw [lefts] at member
    obtain ⟨place, _, rfl⟩ := List.mem_map.mp member
    rw [read_left]
  have stripped : (fragment (quoting width start) root).strip Fragment.unquoted =
      (skeleton root).fragment dots width 0 :=
    node_strip (some quoteIdentifiers) Fragment.unquoted _ dots
      (fun leaf fieldPrefix => by rw [Fragment.unquoted, read_left, String.ofList_toList]) width 0 none root
  have written := Fragment.read_written (fragment (quoting width start) root) (node_plain _ _ _ _ root)
    (node_delimited _ _ _ _ root) closed (.startingAt start) (.startingAt start) rfl
  rw [stripped, lefts, leftTokens, List.flatMap_map] at written
  simp only [read_left] at written
  exact written

/-- Whatever the fields, prefixes and values are, the identifiers are read back as they were, and outside them a tree
looks as any other with the same skeleton. -/
theorem quoted_identifiers_read_back (root : Node F) (width : Nat) (start : UInt64) (result : BoundSql)
    (rendered : renderParameterized (some root) (quoting width start) = .ok result) :
    ∃ sql, result.sql = some sql ∧
      (readIdentifiers .outside sql.toList).closed = true ∧
      (readIdentifiers .outside sql.toList).identifiers =
        ((root.placed none).flatMap fun place => segments (path place.1 place.2).toList) ∧
      ∀ (other : Node G) (otherResult : BoundSql) (otherSql : String),
        renderParameterized (some other) (quoting width start) = .ok otherResult → otherResult.sql = some otherSql →
        skeleton other = skeleton root →
        (readIdentifiers .outside otherSql.toList).outside = (readIdentifiers .outside sql.toList).outside := by
  obtain ⟨sql, written, reading⟩ := read_rendered root width start result rendered
  refine ⟨sql, written, by rw [reading], by rw [reading], ?_⟩
  intro other otherResult otherSql otherRendered otherWritten same
  obtain ⟨text, textWritten, textReading⟩ := read_rendered other width start otherResult otherRendered
  have unique : text = otherSql := Option.some.inj (textWritten.symm.trans otherWritten)
  rw [← unique, textReading, reading, same]

def hostileNames : Node String :=
  .group .or (some "a\".") [.leaf (.of "\" or (1=1)." .gt (.int 1)), .group .and none [.leaf (.of "\n" .eq .null)]]

def harmlessNames : Node String :=
  .group .or none [.leaf (.of "a.b.c" .gt (.string "\"")), .group .and (some "x") [.leaf (.of "" .eq .null)]]

theorem hostile_names_read_back :
    ∃ result sql, renderParameterized (some hostileNames) (quoting 2 1) = .ok result ∧ result.sql = some sql ∧
      (readIdentifiers .outside sql.toList).identifiers =
        ["a\"".toList, "\" or (1=1)".toList, "".toList, "\n".toList] ∧
      ∃ otherResult otherSql, renderParameterized (some harmlessNames) (quoting 2 1) = .ok otherResult ∧
        otherResult.sql = some otherSql ∧
        (readIdentifiers .outside otherSql.toList).outside = (readIdentifiers .outside sql.toList).outside := by
  obtain ⟨sql, written, _, identifiers, outside⟩ :=
    quoted_identifiers_read_back (G := String) hostileNames 2 1 _ rfl
  refine ⟨_, sql, rfl, written, identifiers.trans (by decide +kernel), _, _, rfl, rfl, ?_⟩
  exact outside harmlessNames _ _ rfl rfl (by rfl)

end SqlFilter.Sql
