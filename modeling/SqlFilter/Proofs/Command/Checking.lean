import SqlFilter.Proofs.Command.Stages
import SqlFilter.Proofs.Sql.Joining
import SqlFilter.Proofs.Sql.Parentheses

/-!
# Checking before rendering

A check fails exactly when rendering would, with the same text, and counts the conditions and the groups that the SQL
would have.
-/

set_option autoImplicit false

namespace SqlFilter

namespace Command

variable (host : Host Id) (coloured : Bool)

theorem check_run (source : Source) :
    (runCheck host coloured source).run =
      match decode source (readSource host source).run with
      | .error failure => .error failure
      | .ok filter =>
          match filter.renderInline {} with
          | .error cause => .error (.unusable cause)
          | .ok _ => .ok (checkText coloured filter) := rfl

variable {host} {coloured}

theorem check_agrees {arguments : RenderArguments} {settings : Settings}
    (loaded : Settings.Loaded host arguments.settings settings) (positive : (override arguments settings).start ≠ 0) :
    (∃ failure, (runCheck host coloured arguments.file).run = .error failure ∧
      (runRender host coloured arguments).run = .error failure) ∨
    ∃ filter output, decode arguments.file (readSource host arguments.file).run = .ok filter ∧
      filter.root.bind Sql.firstError? = none ∧ filter.render (override arguments settings).options = .ok output ∧
      (runCheck host coloured arguments.file).run = .ok (checkText coloured filter) ∧
      (runRender host coloured arguments).run =
        .ok (renderText coloured arguments (override arguments settings) output) := by
  rw [check_run, render_adjusted host coloured arguments settings (Settings.loaded_run loaded) positive]
  cases decode arguments.file (readSource host arguments.file).run with
  | error failure => exact .inl ⟨failure, rfl, rfl⟩
  | ok filter =>
      have plain := Sql.inline_failure {} filter
      have chosen := Sql.render_failure (override arguments settings).options positive filter
      dsimp only
      cases inline : filter.renderInline {} with
      | error cause =>
          rw [inline] at plain
          rw [← plain] at chosen
          cases rendered : filter.render (override arguments settings).options with
          | error other =>
              rw [rendered] at chosen
              exact .inl ⟨_, rfl, by rw [Option.some.inj chosen]⟩
          | ok output => simp [rendered, failureOf] at chosen
      | ok text =>
          rw [inline] at plain
          rw [← plain] at chosen
          cases rendered : filter.render (override arguments settings).options with
          | error other => simp [rendered, failureOf] at chosen
          | ok output => exact .inr ⟨filter, output, rfl, plain.symm, rendered, rfl, rfl⟩

/-- One rendering with the usual options predicts every other: checking accepts the texts that can be rendered at all
and says of the others what rendering says. What it counts can be counted in the SQL. -/
theorem check_predicts_rendering (host : Host Id) (coloured : Bool) (environment checkEnvironment : Option String)
    (words checkWords : List String) (arguments : RenderArguments) (settings : Settings)
    (parsed : ofArguments environment words = .ok (.render arguments))
    (checkParsed : ofArguments checkEnvironment checkWords = .ok (.check arguments.file))
    (loaded : Settings.Loaded host arguments.settings settings)
    (positive : 1 ≤ (override arguments settings).start) :
    ((program host coloured checkEnvironment checkWords).run.code = 0 ↔
      (program host coloured environment words).run.code = 0) ∧
    ((program host coloured checkEnvironment checkWords).run.code ≠ 0 →
      (program host coloured checkEnvironment checkWords).run.err =
        (program host coloured environment words).run.err) ∧
    ((program host coloured checkEnvironment checkWords).run.code = 0 →
      ∃ text filter, (readSource host arguments.file).run = .ok text ∧ Filter.ofJsonText text = .ok filter ∧
        ∀ root, filter.root = some root → ∃ output sql count depth,
          (program host coloured environment words).run.out =
            renderText coloured arguments (override arguments settings) output ∧
          output.sql = some sql ∧ Sql.Shows (override arguments settings).options root sql count depth ∧
          (program host coloured checkEnvironment checkWords).run.out =
            line (mark coloured ++ " valid filter") ++ countLine coloured "Leaves:" count ++
              countLine coloured "Depth:" depth) := by
  have start := Sql.start_present positive
  rw [program_run host coloured environment words _ parsed,
    program_run host coloured checkEnvironment checkWords _ checkParsed, run, run]
  rcases check_agrees loaded start with ⟨failure, checked, rendered⟩ |
    ⟨filter, output, decoded, sound, shown, checked, rendered⟩
  · rw [checked, rendered]
    exact ⟨Iff.rfl, fun _ => rfl, fun finished => absurd finished Nat.one_ne_zero⟩
  · rw [checked, rendered]
    refine ⟨Iff.rfl, fun failed => absurd rfl failed, fun _ => ?_⟩
    obtain ⟨text, content, read⟩ := decode_ok decoded
    refine ⟨text, filter, content, read, fun root present => ?_⟩
    obtain ⟨other, sql, same, written, shows⟩ :=
      Sql.rendered_shows (override arguments settings).options root start (by simpa [present] using sound)
    rw [Filter.render, present] at shown
    obtain rfl := Except.ok.inj (shown.symm.trans same)
    refine ⟨output, sql, _, _, rfl, written, shows, ?_⟩
    simp only [Outcome.ofResult, checkText, present]

def filterFile : String :=
  "[\"or\",null,[[\"a)\",\"in\",[1,2]],[\"and\",null,[[\"b\",\"=\",null]]]]]"

def nestedFilter : Node String :=
  .group .or none [.leaf (.of "a)" .isIn (.array [.int 1, .int 2])), .group .and none [.leaf (.of "b" .eq .null)]]

def filterHost : Host Id where
  readFile path := if path = "filter.json" then .ok filterFile else .error "absent"
  fileExists _ := false
  readInput := .error "closed"
  settingsDirectory := none

theorem nested_filter_counted :
    1 ≤ (override ⟨some "filter.json", some 2, false, some 3, true, false, none⟩ default).start ∧
      (program filterHost false none ["render", "--indent", "2", "--quote", "--start=3", "filter.json"]).run.code = 0 ∧
      (program filterHost false none ["check", "filter.json"]).run.out =
        "✓ valid filter\n  Leaves: 2\n  Depth: 2\n" := by
  have read : Json.read filterFile = .ok (.array [.string "or", .null, .array [
      .array [.string "a)", .string "in", .array [.number (.int 1), .number (.int 2)]],
      .array [.string "and", .null, .array [.array [.string "b", .string "=", .null]]]]]) := by
    decide +kernel
  have decoded : Filter.ofJsonText filterFile = .ok ⟨some nestedFilter⟩ := Filter.of_text_of_read read
  have checkParsed : ofArguments none ["check", "filter.json"] = .ok (.check (some "filter.json")) := by decide +kernel
  have content : (readSource filterHost (some "filter.json")).run = .ok filterFile := rfl
  have accepted : (program filterHost false none ["check", "filter.json"]).run.code = 0 := by
    rw [program_run filterHost false none _ _ checkParsed, run, check_run, content, decode, decoded]
    rfl
  obtain ⟨agree, _, counted⟩ := check_predicts_rendering filterHost false none none
    ["render", "--indent", "2", "--quote", "--start=3", "filter.json"] ["check", "filter.json"]
    ⟨some "filter.json", some 2, false, some 3, true, false, none⟩ default (by decide +kernel) checkParsed
    (.standard rfl) (by decide)
  refine ⟨by decide, agree.mp accepted, ?_⟩
  obtain ⟨text, filter, sameContent, sameFilter, shown⟩ := counted accepted
  obtain rfl := Except.ok.inj (content.symm.trans sameContent)
  obtain rfl := Except.ok.inj (decoded.symm.trans sameFilter)
  obtain ⟨output, sql, count, depth, _, _, shows, printed⟩ := shown nestedFilter rfl
  obtain rfl : 2 = count := shows.conditions
  obtain rfl : 2 = depth := Eq.trans (by decide +kernel) shows.nesting
  rw [printed]
  decide +kernel

end Command

end SqlFilter
