import SqlFilter.Proofs.Command.Stages
import SqlFilter.Proofs.Json.Numbers
import SqlFilter.Proofs.Sql.Joining

/-!
# Joining files

Either all files are joined, or the first that cannot be had or does not decode is the error and nothing is written.
-/

set_option autoImplicit false

namespace SqlFilter

namespace Filter

theorem leaves_of_roots (filters : List (Filter String)) :
    ∀ leaf ∈ Node.leavesOf (filters.filterMap root), ∃ filter ∈ filters, ∃ tree ∈ filter.root, leaf ∈ tree.leaves := by
  induction filters with
  | nil => nofun
  | cons filter filters ih =>
      intro leaf member
      obtain ⟨_ | tree⟩ := filter
      · obtain ⟨other, listed, held⟩ := ih leaf member
        exact ⟨other, List.mem_cons_of_mem _ listed, held⟩
      · rcases List.mem_append.mp member with own | later
        · exact ⟨_, List.mem_cons_self, tree, rfl, own⟩
        · obtain ⟨other, listed, held⟩ := ih leaf later
          exact ⟨other, List.mem_cons_of_mem _ listed, held⟩

theorem join_exact (logic : Logic) (filters : List (Filter String)) (kept : ∀ filter ∈ filters, filter.Exact) :
    (join logic filters).Exact := by
  intro root present leaf member
  rw [join_root, Option.mem_some_iff] at present
  subst present
  obtain ⟨filter, listed, tree, held, own⟩ := leaves_of_roots filters leaf member
  exact kept filter listed tree held leaf own

end Filter

namespace Command

/-- Each file is looked at for itself, wherever it stands among the operands. -/
def FileFails (host : Host Id) (path told : String) : Prop :=
  ∃ stage, SourceFails host (some path) stage told

def FileHolds (host : Host Id) (path : String) (filter : Filter String) : Prop :=
  Decodes host (some path) filter

section Files

variable {host : Host Id}

theorem decode_fails {path told : String} (fails : FileFails host path told) :
    ∃ failure, decode (some path) (host.readFile path).run = .error failure ∧ failure.message = told := by
  obtain ⟨stage, failed⟩ := fails
  exact source_fails_decode failed

theorem decode_holds {path : String} {filter : Filter String} (holds : FileHolds host path filter) :
    decode (some path) (host.readFile path).run = .ok filter :=
  decodes_decode holds

theorem holds_unique : Relator.RightUnique (FileHolds host) :=
  fun _ _ _ holds otherHolds => decodes_unique holds otherHolds

theorem holds_sound {path : String} {filter : Filter String} (holds : FileHolds host path filter) (told : String) :
    ¬ FileFails host path told := by
  rintro ⟨stage, failed⟩
  exact decodes_sound holds stage told failed

theorem read_files_cons (path : String) (paths : List String) :
    (readFilters host (path :: paths)).run =
      match decode (some path) (host.readFile path).run with
      | .error failure => .error failure
      | .ok filter =>
          match (readFilters host paths).run with
          | .error failure => .error failure
          | .ok filters => .ok (filter :: filters) := rfl

theorem holds_unless {path : String} (sound : ∀ told, ¬ FileFails host path told) :
    ∃ filter, FileHolds host path filter := by
  rcases source_settled host (some path) with holds | ⟨stage, told, fails⟩
  · exact holds
  · exact absurd ⟨stage, fails⟩ (sound told)

theorem read_files_stops (before : List String) (path : String) (after : List String) (told : String)
    (sound : ∀ earlier ∈ before, ∀ other, ¬ FileFails host earlier other) (fails : FileFails host path told) :
    ∃ failure, (readFilters host (before ++ path :: after)).run = .error failure ∧ failure.message = told := by
  induction before with
  | nil =>
      obtain ⟨failure, failed, message⟩ := decode_fails fails
      exact ⟨failure, by rw [List.nil_append, read_files_cons, failed], message⟩
  | cons earlier before ih =>
      obtain ⟨first, others⟩ := List.forall_mem_cons.mp sound
      obtain ⟨filter, holds⟩ := holds_unless first
      obtain ⟨failure, failed, message⟩ := ih others
      exact ⟨failure, by rw [List.cons_append, read_files_cons, decode_holds holds, failed], message⟩

theorem first_failing_file (paths : List String) {path told : String} (listed : path ∈ paths)
    (fails : FileFails host path told) :
    ∃ before path after told, paths = before ++ path :: after ∧
      (∀ earlier ∈ before, ∀ other, ¬ FileFails host earlier other) ∧ FileFails host path told := by
  induction paths with
  | nil => cases listed
  | cons head paths ih =>
      by_cases sound : ∀ other, ¬ FileFails host head other
      · rcases List.mem_cons.mp listed with rfl | later
        · exact absurd fails (sound told)
        · obtain ⟨before, path, after, told, rfl, earlier, fails⟩ := ih later
          exact ⟨head :: before, path, after, told, rfl, List.forall_mem_cons.mpr ⟨sound, earlier⟩, fails⟩
      · obtain ⟨other, headFails⟩ := not_forall_not.mp sound
        exact ⟨[], head, paths, other, rfl, nofun, headFails⟩

theorem read_files_all (paths : List String) (sound : ∀ path ∈ paths, ∀ told, ¬ FileFails host path told) :
    ∃ filters, List.Forall₂ (FileHolds host) paths filters ∧ (readFilters host paths).run = .ok filters := by
  induction paths with
  | nil => exact ⟨[], .nil, rfl⟩
  | cons path paths ih =>
      obtain ⟨first, others⟩ := List.forall_mem_cons.mp sound
      obtain ⟨filter, holds⟩ := holds_unless first
      obtain ⟨filters, allHold, read⟩ := ih others
      exact ⟨filter :: filters, .cons holds allHold, by rw [read_files_cons, decode_holds holds, read]⟩

theorem held_exact {paths : List String} {filters : List (Filter String)}
    (held : List.Forall₂ (FileHolds host) paths filters) (floatFree : ∀ filter ∈ filters, filter.FloatFree) :
    ∀ filter ∈ filters, filter.Exact := by
  induction held with
  | nil => nofun
  | cons holds _ ih =>
      obtain ⟨text, _, decoded⟩ := holds
      obtain ⟨first, others⟩ := List.forall_mem_cons.mp floatFree
      exact List.forall_mem_cons.mpr ⟨Filter.exact_of_read text _ decoded first, ih others⟩

end Files

theorem join_text_written (arguments : JoinArguments) (filters : List (Filter String)) :
    ∃ style : Json.Style, style.Blank ∧
      joinText arguments filters = (Filter.join arguments.logic filters).toJson.write style 0 ++ "\n" := by
  unfold joinText
  cases arguments.pretty with
  | true => exact ⟨.pretty, Json.Style.pretty_blank, rfl⟩
  | false => exact ⟨.compact, Json.Style.compact_blank, rfl⟩

section Text

variable (arguments : JoinArguments) (filters : List (Filter String)) (kept : ∀ filter ∈ filters, filter.Exact)

include kept

theorem join_text_nesting :
    Json.textNesting (joinText arguments filters) = (Filter.join arguments.logic filters).toJson.nesting := by
  obtain ⟨style, blank, written⟩ := join_text_written arguments filters
  have readable := Filter.to_json_readable _ (Filter.join_exact arguments.logic filters kept)
  rw [written, Json.text_nesting_padded blank _ readable "\n" Json.newline_blank]

theorem join_text_reads_back (shallow : Json.textNesting (joinText arguments filters) ≤ 127) :
    Filter.ofJsonText (joinText arguments filters) = .ok (Filter.join arguments.logic filters) := by
  obtain ⟨style, blank, written⟩ := join_text_written arguments filters
  rw [written] at shallow ⊢
  rw [Filter.of_text_padded blank _ (Filter.join_exact arguments.logic filters kept) "\n" Json.newline_blank,
    if_pos shallow]

end Text

theorem join_run (host : Host Id) (arguments : JoinArguments) :
    (runJoin host arguments).run =
      match (readFilters host arguments.files).run with
      | .error failure => .error failure
      | .ok filters => .ok (joinText arguments filters) := rfl

/-- Nothing is printed unless every file holds a filter: the first that does not is reported. What is printed is read
back as the group of the trees in the files, whatever spelling they had there. -/
theorem joining_is_all_or_nothing (host : Host Id) (coloured : Bool) (environment : Option String)
    (words : List String) (arguments : JoinArguments)
    (parsed : ofArguments environment words = .ok (.join arguments)) :
    (∀ before path after told, arguments.files = before ++ path :: after →
      (∀ earlier ∈ before, ∀ other, ¬ FileFails host earlier other) → FileFails host path told →
      (program host coloured environment words).run = ⟨1, "", complaint coloured told⟩) ∧
    ((∀ path ∈ arguments.files, ∀ told, ¬ FileFails host path told) →
      ∃ filters, List.Forall₂ (FileHolds host) arguments.files filters ∧
        (Filter.join arguments.logic filters).root =
          some (.group arguments.logic none (filters.filterMap Filter.root)) ∧
        (program host coloured environment words).run = ⟨0, joinText arguments filters, ""⟩ ∧
        ((∀ filter ∈ filters, filter.FloatFree) → Json.textNesting (joinText arguments filters) ≤ 127 →
          Filter.ofJsonText (joinText arguments filters) = .ok (Filter.join arguments.logic filters))) ∧
    ((program host coloured environment words).run.code = 0 ↔
      ∀ path ∈ arguments.files, ∀ told, ¬ FileFails host path told) := by
  rw [program_run host coloured environment words _ parsed, run, join_run]
  have stops (before : List String) (path : String) (after : List String) (told : String)
      (files : arguments.files = before ++ path :: after)
      (sound : ∀ earlier ∈ before, ∀ other, ¬ FileFails host earlier other) (fails : FileFails host path told) :
      ∃ failure, (readFilters host arguments.files).run = .error failure ∧ failure.message = told := by
    rw [files]
    exact read_files_stops before path after told sound fails
  refine ⟨fun before path after told files sound fails => ?_, fun sound => ?_,
    fun zero path listed told fails => ?_, fun sound => ?_⟩
  · obtain ⟨failure, failed, message⟩ := stops before path after told files sound fails
    rw [failed]
    dsimp only
    rw [complained, message]
  · obtain ⟨filters, held, read⟩ := read_files_all arguments.files sound
    refine ⟨filters, held, Filter.join_root arguments.logic filters, ?_, fun floatFree shallow => ?_⟩
    · rw [read]
      rfl
    · exact join_text_reads_back arguments filters (held_exact held floatFree) shallow
  · obtain ⟨before, first, after, cause, files, earlier, firstFails⟩ := first_failing_file arguments.files listed fails
    obtain ⟨failure, failed, _⟩ := stops before first after cause files earlier firstFails
    rw [failed] at zero
    cases zero
  · obtain ⟨filters, _, read⟩ := read_files_all arguments.files sound
    rw [read]
    rfl

-- A tree spelled in its short form, nothing at all, and a text that is no filter.
def shelf : Host Id where
  readFile path :=
    match path with
    | "spelled.json" => .ok "[\"or\", null, [[\"a\", \"in\", [9223372036854775808, -1]]]]"
    | "null.json" => .ok " null"
    | "broken.json" => .ok "[]"
    | _ => .error "absent"
  fileExists _ := false
  readInput := .error "closed"
  settingsDirectory := none

def spelledTree : Node String :=
  .group .or none [.leaf (.of "a" .isIn (.array [.uint 9223372036854775808, .int (-1)]))]

def joinedTwice : Filter String :=
  ⟨some (.group .or none [spelledTree, spelledTree])⟩

theorem duplicates_joined_and_absent_reported :
    (program shelf false none ["join", "null.json", "absent.json", "broken.json"]).run =
        ⟨1, "", "Error: Failed to read absent.json: absent\n"⟩ ∧
      (program shelf false none
        ["join", "--logic", "or", "--pretty", "spelled.json", "null.json", "spelled.json"]).run.code = 0 ∧
      Filter.ofJsonText (program shelf false none
        ["join", "--logic", "or", "--pretty", "spelled.json", "null.json", "spelled.json"]).run.out =
          .ok joinedTwice := by
  have spelled : Json.read "[\"or\", null, [[\"a\", \"in\", [9223372036854775808, -1]]]]" =
      .ok (.array [.string "or", .null, .array [.array [.string "a", .string "in",
        .array [.number (.int 9223372036854775808), .number (.int (-1))]]]]) := by
    decide +kernel
  have nothing : Json.read " null" = .ok .null := by decide +kernel
  have spelledHolds : FileHolds shelf "spelled.json" ⟨some spelledTree⟩ := ⟨_, rfl, Filter.of_text_of_read spelled⟩
  have nullHolds : FileHolds shelf "null.json" .empty := ⟨_, rfl, Filter.of_text_of_read nothing⟩
  obtain ⟨stops, _, _⟩ := joining_is_all_or_nothing shelf false none
    ["join", "null.json", "absent.json", "broken.json"] ⟨.and, ["null.json", "absent.json", "broken.json"], false⟩
    (by decide +kernel)
  obtain ⟨_, succeeds, _⟩ := joining_is_all_or_nothing shelf false none
    ["join", "--logic", "or", "--pretty", "spelled.json", "null.json", "spelled.json"]
    ⟨.or, ["spelled.json", "null.json", "spelled.json"], true⟩ (by decide +kernel)
  refine ⟨stops ["null.json"] "absent.json" ["broken.json"] _ rfl ?_ ⟨.read, .read rfl⟩, ?_⟩
  · simpa using holds_sound nullHolds
  · obtain ⟨filters, held, _, shown, readBack⟩ := succeeds (by simp [holds_sound spelledHolds, holds_sound nullHolds])
    have expected : List.Forall₂ (FileHolds shelf) ["spelled.json", "null.json", "spelled.json"]
        [⟨some spelledTree⟩, .empty, ⟨some spelledTree⟩] :=
      .cons spelledHolds (.cons nullHolds (.cons spelledHolds .nil))
    obtain rfl := holds_unique.forall₂ held expected
    have floatFree : ∀ filter : Filter String, filter ∈ [⟨some spelledTree⟩, .empty, ⟨some spelledTree⟩] →
        filter.FloatFree := by
      simp [Filter.FloatFree, Filter.empty, spelledTree, Node.leaves, Node.leavesOf, Leaf.of, Value.FloatFree,
        Value.AllFloatFree]
    rw [shown]
    refine ⟨rfl, readBack floatFree ?_⟩
    rw [join_text_nesting _ _ (held_exact held floatFree)]
    decide

end Command

end SqlFilter
