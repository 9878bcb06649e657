import Mathlib.Order.WellFounded
import SqlFilter.Proofs.Command.Presenting
import SqlFilter.Proofs.Settings.Loading
import SqlFilter.Proofs.Sql.Joining
import SqlFilter.Proofs.Sql.Shapes

/-!
# The stages of a rendering

Settings are loaded and adjusted, the filter is read and decoded, and only then rendered. What each stage can fail with
is said by the text that is printed about it, and what a rendering under given options shows by `Renders`.
-/

set_option autoImplicit false

namespace SqlFilter

namespace Command

-- The stages of a rendering in the order in which they are gone through.
inductive Stage
  | load
  | adjust
  | read
  | decode
  | render
deriving DecidableEq

def Stage.place : Stage → Nat
  | .load => 0
  | .adjust => 1
  | .read => 2
  | .decode => 3
  | .render => 4

def complaint (coloured : Bool) (told : String) : String :=
  (if coloured then "\x1b[1;31mError:\x1b[0m " else "Error: ") ++ told ++ "\n"

def zeroStartText : String :=
  "Configuration error: parameter_start_index must be at least 1"

def misfitText (field : String) (op : Operator) (expected : String) : String :=
  "Invalid value for '" ++ field ++ " " ++ op.sql ++ "': expected " ++ expected

-- The options that a rendering goes by: each part has what the command line says of it, and otherwise what the settings
-- have. Parameters and quotes need both, or one of both, to say so.
structure Effective (arguments : RenderArguments) (settings : Settings) (options : Sql.RenderOptions String) :
    Prop where
  indentation : options.indentation = arguments.indent.getD settings.indentation
  start : options.start = arguments.start.getD settings.start
  mode : options.useParameters = true ↔ settings.useParameters = true ∧ arguments.inline = false
  transformer : options.transformer =
    if settings.quoteIdentifiers = true ∨ arguments.quote = true then some Sql.quoteIdentifiers else none

-- What is wrong with the text of a filter.
inductive SourceFails (host : Host Id) (source : Source) : Stage → String → Prop
  | read {reason : String} (failed : (readSource host source).run = .error reason) :
      SourceFails host source .read ("Failed to read " ++ source.getD "stdin" ++ ": " ++ reason)
  | decode {text : String} {cause : Json.ReadError} (content : (readSource host source).run = .ok text)
      (failed : Filter.ofJsonText (F := String) text = .error (.json cause)) :
      SourceFails host source .decode
        ("Invalid filter JSON in " ++ source.getD "stdin" ++ ": JSON error: " ++ cause.message ++ ": " ++ cause.message)

def Decodes (host : Host Id) (source : Source) (filter : Filter String) : Prop :=
  ∃ text, (readSource host source).run = .ok text ∧ Filter.ofJsonText text = .ok filter

/-- What is wrong at a stage, with what is printed about it. Each stage is looked at for itself, as far as what it works
on is there at all: several may fail in one run. -/
inductive Fails (host : Host Id) (arguments : RenderArguments) : Stage → String → Prop
  | load {told : String} (failed : Settings.LoadFails host arguments.settings told) :
      Fails host arguments .load ("Failed to load render config: " ++ told)
  | adjust {settings : Settings} {options : Sql.RenderOptions String}
      (loaded : Settings.Loaded host arguments.settings settings) (effective : Effective arguments settings options)
      (zero : options.start = 0) : Fails host arguments .adjust zeroStartText
  | source {stage : Stage} {told : String} (failed : SourceFails host arguments.file stage told) :
      Fails host arguments stage told
  | render {settings : Settings} {options : Sql.RenderOptions String} {filter : Filter String} {field expected : String}
      {op : Operator} (loaded : Settings.Loaded host arguments.settings settings)
      (effective : Effective arguments settings options) (decoded : Decodes host arguments.file filter)
      (failed : filter.render options = .error (.invalidShape field op expected)) :
      Fails host arguments .render (misfitText field op expected)

structure Succeeds (host : Host Id) (arguments : RenderArguments) (options : Sql.RenderOptions String)
    (filter : Filter String) (output : Sql.Output) : Prop where
  effective : ∃ settings, Settings.Loaded host arguments.settings settings ∧ Effective arguments settings options
  positive : options.start ≠ 0
  decoded : Decodes host arguments.file filter
  rendered : filter.render options = .ok output

-- How a rendering ends once its options are settled.
structure Renders (host : Host Id) (coloured : Bool) (source : Source) (json : Bool)
    (options : Sql.RenderOptions String) (outcome : Outcome) : Prop where
  refused : options.start = 0 → outcome = ⟨1, "", complaint coloured zeroStartText⟩
  unread : options.start ≠ 0 → ∀ stage told, SourceFails host source stage told →
    outcome = ⟨1, "", complaint coloured told⟩
  misshapen : options.start ≠ 0 → ∀ filter, Decodes host source filter → ∀ field op expected,
    filter.render options = .error (.invalidShape field op expected) →
      outcome = ⟨1, "", complaint coloured (misfitText field op expected)⟩
  shown : options.start ≠ 0 → ∀ filter output, Decodes host source filter → filter.render options = .ok output →
    outcome.code = 0 ∧ outcome.err = "" ∧ Presents coloured json options filter output outcome.out

section Options

variable {arguments : RenderArguments} {settings : Settings} {options other : Sql.RenderOptions String}

theorem override_effective (arguments : RenderArguments) (settings : Settings) :
    Effective arguments settings (override arguments settings).options := by
  have mode : (settings.useParameters && !arguments.inline) = true ↔
      settings.useParameters = true ∧ arguments.inline = false := by
    rw [Bool.and_eq_true, Bool.not_eq_true']
  have quoted : (settings.quoteIdentifiers || arguments.quote) = true ↔
      settings.quoteIdentifiers = true ∨ arguments.quote = true := by
    rw [Bool.or_eq_true]
  exact ⟨rfl, rfl, mode, if_congr quoted rfl rfl⟩

theorem effective_unique (effective : Effective arguments settings options)
    (otherEffective : Effective arguments settings other) : options = other := by
  obtain ⟨transformer, indentation, useParameters, start⟩ := options
  obtain ⟨indented, started, mode, quoted⟩ := effective
  obtain ⟨otherTransformer, otherIndentation, otherUse, otherStart⟩ := other
  obtain ⟨otherIndented, otherStarted, otherMode, otherQuoted⟩ := otherEffective
  have same : useParameters = otherUse := Bool.eq_iff_iff.mpr (mode.trans otherMode.symm)
  dsimp only at indented started quoted otherIndented otherStarted otherQuoted
  rw [indented, started, quoted, otherIndented, otherStarted, otherQuoted, same]

end Options

theorem outcome_shown {outcome : Outcome} {text : String} (code : outcome.code = 0) (err : outcome.err = "")
    (out : outcome.out = text) : outcome = ⟨0, text, ""⟩ := by
  obtain ⟨_, _, _⟩ := outcome
  cases code
  cases err
  cases out
  rfl

theorem complained (coloured : Bool) (failure : Failure) :
    Outcome.ofResult coloured (.error failure) = ⟨1, "", complaint coloured failure.message⟩ := by
  have heading : Ink.alarm.paint coloured "Error:" ++ " " =
      if coloured then "\x1b[1;31mError:\x1b[0m " else "Error: " := by
    cases coloured <;> decide
  rw [Outcome.ofResult, heading, complaint]

theorem load_message (cause : FilterError) :
    (Failure.settings cause).message = "Failed to load render config: " ++ ": ".intercalate cause.causes := by
  have present : cause.causes ≠ [] := by cases cause <;> exact List.cons_ne_nil _ _
  rw [Failure.message, String.intercalate_cons_of_ne_nil present]
  rfl

theorem decode_message (source : Source) (cause : Json.ReadError) :
    (Failure.undecodable source (.json cause)).message =
      "Invalid filter JSON in " ++ source.getD "stdin" ++ ": JSON error: " ++ cause.message ++ ": " ++
        cause.message := by
  have together (front : String) :
      front ++ ": " ++ ("JSON error: " ++ cause.message) = front ++ ": JSON error: " ++ cause.message := by
    have literal : ": " ++ ("JSON error: " ++ cause.message) = ": JSON error: " ++ cause.message :=
      String.append_assoc.symm
    rw [String.append_assoc, literal, ← String.append_assoc]
  have parts : (Failure.undecodable source (.json cause)).message =
      "Invalid filter JSON in " ++ source.getD "stdin" ++ ": " ++ ("JSON error: " ++ cause.message) ++ ": " ++
        cause.message := rfl
  rw [parts, together]

variable (host : Host Id) (coloured : Bool)

theorem program_run (environment : Option String) (words : List String) (command : Command)
    (parsed : ofArguments environment words = .ok command) :
    (program host coloured environment words).run = .ofResult coloured (command.run host coloured).run := by
  rw [program, parsed]
  rfl

theorem decode_ok {source : Source} {content : Except String String} {filter : Filter String}
    (decoded : decode source content = .ok filter) :
    ∃ text, content = .ok text ∧ Filter.ofJsonText text = .ok filter := by
  cases content with
  | error reason => cases decoded
  | ok text =>
      refine ⟨text, rfl, ?_⟩
      rw [decode] at decoded
      cases read : Filter.ofJsonText (F := String) text with
      | error cause => simp [read, Except.mapError] at decoded
      | ok other => simpa [read, Except.mapError] using decoded

theorem of_json_text_error {text : String} {cause : FilterError}
    (failed : Filter.ofJsonText (F := String) text = .error cause) : ∃ e, cause = .json e := by
  unfold Filter.ofJsonText at failed
  cases read : Json.readAs (Filter.ofJson (F := String)) text with
  | ok filter =>
      rw [read] at failed
      cases failed
  | error e =>
      rw [read] at failed
      exact ⟨e, (Except.error.inj failed).symm⟩

theorem render_run (arguments : RenderArguments) :
    (runRender host coloured arguments).run =
      match effective arguments (Settings.load host arguments.settings).run with
      | .error failure => .error failure
      | .ok settings =>
          match decode arguments.file (readSource host arguments.file).run with
          | .error failure => .error failure
          | .ok filter =>
              match filter.render settings.options with
              | .error cause => .error (.unusable cause)
              | .ok output => .ok (renderText coloured arguments settings output) := rfl

theorem render_unloaded (arguments : RenderArguments) (cause : FilterError)
    (failed : (Settings.load host arguments.settings).run = .error cause) :
    (runRender host coloured arguments).run = .error (.settings cause) := by
  rw [render_run, failed]
  rfl

theorem render_unadjusted (arguments : RenderArguments) (settings : Settings)
    (loaded : (Settings.load host arguments.settings).run = .ok settings)
    (zero : (override arguments settings).start = 0) :
    (runRender host coloured arguments).run = .error (.unusable (.config FilterError.zeroStart)) := by
  rw [render_run, loaded, Command.effective, Settings.check, if_pos zero]
  rfl

theorem render_adjusted (arguments : RenderArguments) (settings : Settings)
    (loaded : (Settings.load host arguments.settings).run = .ok settings)
    (positive : (override arguments settings).start ≠ 0) :
    (runRender host coloured arguments).run =
      match decode arguments.file (readSource host arguments.file).run with
      | .error failure => .error failure
      | .ok filter =>
          match filter.render (override arguments settings).options with
          | .error cause => .error (.unusable cause)
          | .ok output => .ok (renderText coloured arguments (override arguments settings) output) := by
  rw [render_run, loaded, Command.effective, Settings.check, if_neg positive]
  rfl

section Sources

variable {host} {source : Source}

theorem source_fails_decode {stage : Stage} {told : String} (fails : SourceFails host source stage told) :
    ∃ failure, decode source (readSource host source).run = .error failure ∧ failure.message = told := by
  cases fails with
  | @read reason failed =>
      refine ⟨.unreadable source reason, ?_, rfl⟩
      rw [failed, decode]
  | @decode text cause content failed =>
      refine ⟨.undecodable source (.json cause), ?_, decode_message source cause⟩
      rw [content, decode, failed]
      rfl

theorem decodes_decode {filter : Filter String} (decoded : Decodes host source filter) :
    decode source (readSource host source).run = .ok filter := by
  obtain ⟨text, content, read⟩ := decoded
  rw [content, decode, read]
  rfl

theorem decodes_unique {filter other : Filter String} (decoded : Decodes host source filter)
    (otherDecoded : Decodes host source other) : filter = other :=
  Except.ok.inj ((decodes_decode decoded).symm.trans (decodes_decode otherDecoded))

theorem decodes_sound {filter : Filter String} (decoded : Decodes host source filter) (stage : Stage)
    (told : String) : ¬ SourceFails host source stage told := by
  intro fails
  obtain ⟨failure, failed, _⟩ := source_fails_decode fails
  cases (decodes_decode decoded).symm.trans failed

theorem source_settled (host : Host Id) (source : Source) :
    (∃ filter, Decodes host source filter) ∨ ∃ stage told, SourceFails host source stage told := by
  cases content : (readSource host source).run with
  | error reason => exact .inr ⟨_, _, .read content⟩
  | ok text =>
      cases decoded : Filter.ofJsonText (F := String) text with
      | ok filter => exact .inl ⟨filter, text, content, decoded⟩
      | error cause =>
          obtain ⟨e, rfl⟩ := of_json_text_error decoded
          exact .inr ⟨_, _, .decode content decoded⟩

end Sources

variable {host} {arguments : RenderArguments}

theorem render_renders {settings : Settings} (loaded : Settings.Loaded host arguments.settings settings) :
    Renders host coloured arguments.file arguments.json (override arguments settings).options
      (.ofResult coloured (runRender host coloured arguments).run) := by
  have load := Settings.loaded_run loaded
  refine ⟨fun zero => ?_, fun positive stage told fails => ?_,
    fun positive filter decoded field op expected failed => ?_, fun positive filter output decoded rendered => ?_⟩
  · rw [render_unadjusted host coloured arguments settings load zero, complained]
    rfl
  · obtain ⟨failure, failed, message⟩ := source_fails_decode fails
    rw [render_adjusted host coloured arguments settings load positive, failed]
    dsimp only
    rw [complained, message]
  · rw [render_adjusted host coloured arguments settings load positive, decodes_decode decoded]
    dsimp only
    rw [failed, complained]
    rfl
  · rw [render_adjusted host coloured arguments settings load positive, decodes_decode decoded]
    dsimp only
    rw [rendered]
    exact ⟨rfl, rfl, presented coloured arguments rendered⟩

theorem render_loading_fails {told : String} (fails : Settings.LoadFails host arguments.settings told) :
    Outcome.ofResult coloured (runRender host coloured arguments).run =
      ⟨1, "", complaint coloured ("Failed to load render config: " ++ told)⟩ := by
  obtain ⟨cause, failed, causes⟩ := Settings.load_fails_run fails
  rw [render_unloaded host coloured arguments cause failed, complained, load_message, causes]

theorem Renders.effective {settings : Settings} {options : Sql.RenderOptions String}
    (loaded : Settings.Loaded host arguments.settings settings) (effective : Effective arguments settings options) :
    Renders host coloured arguments.file arguments.json options
      (.ofResult coloured (runRender host coloured arguments).run) := by
  rw [effective_unique effective (override_effective arguments settings)]
  exact render_renders coloured loaded

theorem usable_before (first : ∀ stage told, Fails host arguments stage told → 2 ≤ stage.place) :
    ∃ settings options, Settings.Loaded host arguments.settings settings ∧ Effective arguments settings options ∧
      options.start ≠ 0 := by
  rcases Settings.load_settled host arguments.settings with ⟨settings, loaded⟩ | ⟨told, failed⟩
  · have effective := override_effective arguments settings
    refine ⟨settings, _, loaded, effective, fun zero => ?_⟩
    exact absurd (first _ _ (.adjust loaded effective zero)) (by decide)
  · exact absurd (first _ _ (.load failed)) (by decide)

theorem render_stops {stage : Stage} {told : String} (fails : Fails host arguments stage told)
    (first : ∀ earlier other, Fails host arguments earlier other → stage.place ≤ earlier.place) :
    Outcome.ofResult coloured (runRender host coloured arguments).run = ⟨1, "", complaint coloured told⟩ := by
  cases fails with
  | load failed => exact render_loading_fails coloured failed
  | adjust loaded effective zero => exact (Renders.effective coloured loaded effective).refused zero
  | source failed =>
      have late : 2 ≤ stage.place := by cases failed <;> decide
      obtain ⟨settings, options, loaded, effective, positive⟩ := usable_before fun earlier other fails =>
        Nat.le_trans late (first earlier other fails)
      exact (Renders.effective coloured loaded effective).unread positive _ _ failed
  | render loaded effective decoded failed =>
      obtain ⟨settings, options, usable, otherEffective, positive⟩ := usable_before fun earlier other fails =>
        Nat.le_trans (by decide) (first earlier other fails)
      obtain rfl := Settings.loaded_unique loaded usable
      obtain rfl := effective_unique effective otherEffective
      exact (Renders.effective coloured loaded effective).misshapen positive _ decoded _ _ _ failed

theorem succeeds_unless (sound : ∀ stage told, ¬ Fails host arguments stage told) :
    ∃ options filter output, Succeeds host arguments options filter output := by
  obtain ⟨settings, options, loaded, effective, positive⟩ :=
    usable_before fun stage told fails => absurd fails (sound stage told)
  rcases source_settled host arguments.file with ⟨filter, decoded⟩ | ⟨stage, told, failed⟩
  · cases rendered : filter.render options with
    | ok output => exact ⟨options, filter, output, ⟨settings, loaded, effective⟩, positive, decoded, rendered⟩
    | error cause =>
        obtain ⟨field, op, expected, rfl⟩ := Sql.render_misfit positive rendered
        exact absurd (.render loaded effective decoded rendered) (sound .render _)
  · exact absurd (.source failed) (sound stage told)

theorem succeeds_sound {options : Sql.RenderOptions String} {filter : Filter String} {output : Sql.Output}
    (succeeds : Succeeds host arguments options filter output) (stage : Stage) (told : String) :
    ¬ Fails host arguments stage told := by
  intro fails
  obtain ⟨settings, loaded, effective⟩ := succeeds.effective
  cases fails with
  | load failed => exact Settings.loaded_sound loaded _ failed
  | adjust otherLoaded otherEffective zero =>
      obtain rfl := Settings.loaded_unique loaded otherLoaded
      obtain rfl := effective_unique effective otherEffective
      exact succeeds.positive zero
  | source failed => exact decodes_sound succeeds.decoded _ _ failed
  | render otherLoaded otherEffective decoded failed =>
      obtain rfl := Settings.loaded_unique loaded otherLoaded
      obtain rfl := effective_unique effective otherEffective
      obtain rfl := decodes_unique succeeds.decoded decoded
      cases succeeds.rendered.symm.trans failed

theorem succeeds_unique {options otherOptions : Sql.RenderOptions String} {filter other : Filter String}
    {output otherOutput : Sql.Output} (succeeds : Succeeds host arguments options filter output)
    (otherSucceeds : Succeeds host arguments otherOptions other otherOutput) :
    options = otherOptions ∧ filter = other ∧ output = otherOutput := by
  obtain ⟨settings, loaded, effective⟩ := succeeds.effective
  obtain ⟨otherSettings, otherLoaded, otherEffective⟩ := otherSucceeds.effective
  obtain rfl := Settings.loaded_unique loaded otherLoaded
  obtain rfl := effective_unique effective otherEffective
  obtain rfl := decodes_unique succeeds.decoded otherSucceeds.decoded
  exact ⟨rfl, rfl, Except.ok.inj (succeeds.rendered.symm.trans otherSucceeds.rendered)⟩

theorem render_succeeds {options : Sql.RenderOptions String} {filter : Filter String} {output : Sql.Output}
    (succeeds : Succeeds host arguments options filter output) :
    (Outcome.ofResult coloured (runRender host coloured arguments).run).code = 0 ∧
      (Outcome.ofResult coloured (runRender host coloured arguments).run).err = "" ∧
      Presents coloured arguments.json options filter output
        (Outcome.ofResult coloured (runRender host coloured arguments).run).out := by
  obtain ⟨settings, loaded, effective⟩ := succeeds.effective
  have renders := Renders.effective coloured loaded effective
  exact renders.shown succeeds.positive filter output succeeds.decoded succeeds.rendered

theorem first_failing {stage : Stage} {told : String} (fails : Fails host arguments stage told) :
    ∃ stage told, Fails host arguments stage told ∧
      ∀ earlier other, Fails host arguments earlier other → stage.place ≤ earlier.place := by
  obtain ⟨least, ⟨told, leastFails⟩, minimal⟩ :=
    (measure Stage.place).wf.has_min {stage | ∃ told, Fails host arguments stage told} ⟨stage, told, fails⟩
  exact ⟨least, told, leastFails, fun earlier other otherFails =>
    Nat.not_lt.mp (minimal earlier ⟨other, otherFails⟩)⟩

theorem sound_of_code (zero : (Outcome.ofResult coloured (runRender host coloured arguments).run).code = 0)
    (stage : Stage) (told : String) : ¬ Fails host arguments stage told := by
  intro fails
  obtain ⟨first, cause, firstFails, least⟩ := first_failing fails
  rw [render_stops coloured firstFails least] at zero
  cases zero

/-- A run ends with the failure of the first stage that fails, whatever else is wrong, and then shows nothing; it shows
the SQL only when no stage fails. A start of zero is refused in the file of settings and again after the options have
been applied, even where no placeholder will be numbered. -/
theorem first_failing_stage_is_reported (host : Host Id) (coloured : Bool) (environment : Option String)
    (words : List String) (arguments : RenderArguments)
    (parsed : ofArguments environment words = .ok (.render arguments)) :
    (∀ stage told, Fails host arguments stage told →
      (∀ earlier other, Fails host arguments earlier other → stage.place ≤ earlier.place) →
      (program host coloured environment words).run = ⟨1, "", complaint coloured told⟩) ∧
    ((∀ stage told, ¬ Fails host arguments stage told) →
      ∃ options filter output, Succeeds host arguments options filter output ∧
        (program host coloured environment words).run.code = 0 ∧
        (program host coloured environment words).run.err = "" ∧
        Presents coloured arguments.json options filter output (program host coloured environment words).run.out) ∧
    ((program host coloured environment words).run.code = 0 ↔
      ∀ stage told, ¬ Fails host arguments stage told) := by
  rw [program_run host coloured environment words _ parsed, run]
  refine ⟨fun stage told fails first => render_stops coloured fails first, fun sound => ?_,
    sound_of_code coloured, fun sound => ?_⟩
  · obtain ⟨options, filter, output, succeeds⟩ := succeeds_unless sound
    exact ⟨options, filter, output, succeeds, render_succeeds coloured succeeds⟩
  · obtain ⟨options, filter, output, succeeds⟩ := succeeds_unless sound
    exact (render_succeeds coloured succeeds).1

-- A place with one file of settings at most, and a filter on the input.
def smallHost (settings : Option String) (input : String) : Host Id where
  readFile path := if path = "datafilter.toml" then settings.elim (.error "absent") .ok else .error "absent"
  fileExists path := path == "datafilter.toml" && settings.isSome
  readInput := .ok input
  settingsDirectory := none

-- A condition on two values and a null test, which has none.
def smallText : String :=
  "\x7b\"logic\":\"or\",\"nodes\":[\x7b\"field\":\"a\",\"op\":\"in\",\"val\":[1,\"x\"]\x7d," ++
    "\x7b\"field\":\"b\",\"op\":\"=\",\"val\":null\x7d]\x7d"

def smallTree : Node String :=
  .group .or none [.leaf (.of "a" .isIn (.array [.int 1, .string "x"])), .leaf (.of "b" .eq .null)]

theorem small_text_read : Filter.ofJsonText smallText = .ok ⟨some smallTree⟩ := by
  have read : Json.read smallText = .ok (.object [("logic", .string "or"), ("nodes", .array [
      .object [("field", .string "a"), ("op", .string "in"), ("val", .array [.number (.int 1), .string "x"])],
      .object [("field", .string "b"), ("op", .string "="), ("val", .null)]])]) := by
    decide +kernel
  exact Filter.of_text_of_read read

theorem small_rendered (start : UInt64) (positive : start ≠ 0) (sql : String)
    (rendered : Sql.renderParameterized (some smallTree) { start := start } =
      .ok ⟨some sql, [.int 1, .string "x"]⟩) :
    Succeeds (smallHost none smallText) ⟨none, none, false, some start, false, false, none⟩ { start := start }
      ⟨some smallTree⟩ (.bound ⟨some sql, [.int 1, .string "x"]⟩) := by
  refine ⟨⟨default, .standard rfl, override_effective _ _⟩, positive, ⟨_, rfl, small_text_read⟩, ?_⟩
  rw [Filter.render, Sql.render, if_pos rfl, rendered]
  rfl

theorem two_faults_one_report :
    (program (smallHost (some "parameter_start_index = 0") smallText) false none
        ["render", "--start", "5", "absent.json"]).run =
      ⟨1, "", "Error: Failed to load render config: Configuration error: datafilter.toml: " ++
        "parameter_start_index must be at least 1\n"⟩ ∧
      (program (smallHost none smallText) false none ["render", "--inline", "--start", "0", "absent.json"]).run =
        ⟨1, "", "Error: Configuration error: parameter_start_index must be at least 1\n"⟩ ∧
      (program (smallHost none "null") false none ["render"]).run = ⟨0, "(no filter)\n", ""⟩ ∧
      (program (smallHost none smallText) false none ["render", "--start", "9"]).run =
        ⟨0, "(a in ($9, $10) or b is null)\n\nBindings:\n  $9 = 1\n  $10 = \"x\"\n", ""⟩ := by
  have unset (input : String) : Settings.Loaded (smallHost none input) none default := .standard rfl
  refine ⟨?_, ?_, ?_, ?_⟩
  · have stated : Settings.stated "parameter_start_index = 0" = .ok { start := 0 } := by decide +kernel
    have failed : Settings.LoadFails (smallHost (some "parameter_start_index = 0") smallText) none _ :=
      .zeroStart rfl rfl stated rfl
    obtain ⟨fails, _⟩ := first_failing_stage_is_reported (smallHost (some "parameter_start_index = 0") smallText) false
      none ["render", "--start", "5", "absent.json"] ⟨some "absent.json", none, false, some 5, false, false, none⟩
      (by decide +kernel)
    exact fails _ _ (.load failed) fun earlier other _ => Nat.zero_le _
  · obtain ⟨fails, _⟩ := first_failing_stage_is_reported (smallHost none smallText) false none
      ["render", "--inline", "--start", "0", "absent.json"] ⟨some "absent.json", none, true, some 0, false, false, none⟩
      (by decide +kernel)
    refine fails .adjust _ (.adjust (unset _) (override_effective _ _) rfl) fun earlier other otherFails => ?_
    cases otherFails with
    | load failed => exact absurd failed (Settings.loaded_sound (unset _) _)
    | source failed => cases failed <;> decide
    | _ => decide
  · have read : Json.read "null" = .ok .null := by decide +kernel
    have decoded : Filter.ofJsonText (F := String) "null" = .ok .empty := Filter.of_text_of_read read
    have whole : Succeeds (smallHost none "null") ⟨none, none, false, none, false, false, none⟩ {} .empty
        (.bound ⟨none, []⟩) :=
      ⟨⟨default, unset _, override_effective _ _⟩, by decide, ⟨_, rfl, decoded⟩, rfl⟩
    obtain ⟨_, succeeds, _⟩ := first_failing_stage_is_reported (smallHost none "null") false none ["render"]
      ⟨none, none, false, none, false, false, none⟩ (by decide +kernel)
    obtain ⟨options, filter, output, same, code, err, presents⟩ := succeeds (succeeds_sound whole)
    obtain ⟨rfl, rfl, rfl⟩ := succeeds_unique whole same
    exact outcome_shown code err (presents.unlisted rfl)
  · have whole := small_rendered 9 (by decide) "(a in ($9, $10) or b is null)" rfl
    obtain ⟨_, succeeds, _⟩ := first_failing_stage_is_reported (smallHost none smallText) false none
      ["render", "--start", "9"] ⟨none, none, false, some 9, false, false, none⟩ (by decide +kernel)
    obtain ⟨options, filter, output, same, code, err, presents⟩ := succeeds (succeeds_sound whole)
    obtain ⟨rfl, rfl, rfl⟩ := succeeds_unique whole same
    exact outcome_shown code err ((presents.listed rfl).trans (by decide +kernel))

end Command

end SqlFilter
