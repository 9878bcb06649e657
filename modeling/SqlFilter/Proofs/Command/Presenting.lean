import SqlFilter.Command.Run
import SqlFilter.Proofs.Json.Compact
import SqlFilter.Proofs.Json.Printed
import SqlFilter.Proofs.Sql.Modes

/-!
# What a rendering shows of its result

A document, or the SQL with a list of the values that are bound to its placeholders. Both are described here by their
texts, beside the functions that write them: `presented` says that those write no other.
-/

set_option autoImplicit false

namespace SqlFilter

namespace Command

-- A text as it is shown: in its ink, or as it is where there are no colours.
def tint (coloured : Bool) (ink : Ink) (text : String) : String :=
  if coloured then ink.paint true text else text

theorem paint_tint (coloured : Bool) (ink : Ink) (text : String) :
    ink.paint coloured text = tint coloured ink text := by
  cases coloured <;> rfl

/-- Names of values, each on a line of its own with the text of its value. -/
abbrev Bindings :=
  List (String × Value)

def bindingRow (coloured : Bool) (binding : String × Value) : String :=
  "  " ++ binding.1 ++ " = " ++ tint coloured .yellow binding.2.toJsonText ++ "\n"

-- What stands below the SQL.
def legend (coloured : Bool) (bindings : Bindings) : String :=
  if bindings.isEmpty then ""
  else "\n" ++ tint coloured .cyan "Bindings:" ++ "\n" ++ String.join (bindings.map (bindingRow coloured))

-- The SQL of a filter has these names where the values stand when they are written into it: the same text is around
-- them, and each condition has its own.
structure Names (options : Sql.RenderOptions String) (root : Node String) (sql : String) (bindings : Bindings) :
    Prop where
  numbered : bindings.map Prod.fst = Sql.placeholders options.start bindings.length
  values : bindings.map Prod.snd = root.leaves.flatMap Leaf.operands
  written : ∃ gaps, gaps.length = bindings.length + 1 ∧ sql = Sql.weave gaps (bindings.map Prod.fst) ∧
    Sql.renderInline (some root) options =
      .ok (some (Sql.weave gaps (root.leaves.flatMap fun leaf => leaf.operands.map (Sql.delimited leaf))))

def sqlJson (sql : Option String) : Json :=
  sql.elim .null .string

def resultJson (output : Sql.Output) : Json :=
  .object [("sql", sqlJson output.sql), ("values", .array (output.values.map Value.toJson))]

/-- What a rendering shows of its result. -/
structure Presents (coloured json : Bool) (options : Sql.RenderOptions String) (filter : Filter String)
    (output : Sql.Output) (out : String) : Prop where
  unbound : options.useParameters = false → output.values = []
  document : json = true → Json.Holds out (resultJson output) ∧
    (Value.AllFloatFree output.values → (resultJson output).nesting ≤ Json.maxNesting →
      Json.read out = .ok (resultJson output))
  listing : json = false → ∃ bindings, output.values = bindings.map Prod.snd ∧
    out = output.sql.elim (tint coloured .dimmed "(no filter)") (tint coloured .white) ++ "\n" ++
      legend coloured bindings ∧
    ∀ root ∈ filter.root, ∀ sql ∈ output.sql, options.useParameters = true → Names options root sql bindings
  lines : ∀ value ∈ output.values, Json.Holds value.toJsonText value.toJson ∧ Json.OneLine value.toJsonText.toList

-- Values under the names that follow one another from the start.
def numbered (start : UInt64) (values : List Value) : Bindings :=
  (Sql.placeholders start values.length).zip values

theorem numbered_names (start : UInt64) (values : List Value) :
    (numbered start values).map Prod.fst = Sql.placeholders start values.length :=
  List.map_fst_zip (Sql.placeholders_length start values.length).le

theorem numbered_values (start : UInt64) (values : List Value) : (numbered start values).map Prod.snd = values :=
  List.map_snd_zip (Sql.placeholders_length start values.length).ge

theorem numbered_length (start : UInt64) (values : List Value) : (numbered start values).length = values.length := by
  rw [numbered, List.length_zip, Sql.placeholders_length, Nat.min_self]

theorem numbered_cons (start : UInt64) (value : Value) (values : List Value) :
    numbered start (value :: values) = (Sql.placeholder start, value) :: numbered (start + 1) values := by
  rw [numbered, List.length_cons, Sql.placeholders_succ, List.zip_cons_cons, numbered]

theorem row_printed (coloured : Bool) (number : UInt64) (value : Value) (values : List Value) :
    bindingLines coloured number (value :: values) =
      bindingRow coloured (Sql.placeholder number, value) ++ bindingLines coloured (number + 1) values := by
  rw [bindingLines, paint_tint]
  rfl

theorem lines_printed (coloured : Bool) (start : UInt64) (values : List Value) :
    bindingLines coloured start values = String.join ((numbered start values).map (bindingRow coloured)) := by
  induction values generalizing start with
  | nil => rfl
  | cons value values ih => rw [row_printed, ih, numbered_cons, List.map_cons, String.join_cons]

theorem legend_printed (coloured : Bool) (start : UInt64) (values : List Value) :
    bindingText coloured start values = legend coloured (numbered start values) := by
  cases values with
  | nil => rfl
  | cons value values =>
      have present : (numbered start (value :: values)).isEmpty = false := by rw [numbered_cons]; rfl
      have head : bindingText coloured start (value :: values) =
          "\n" ++ (Ink.cyan.paint coloured "Bindings:" ++ "\n") ++ bindingLines coloured start (value :: values) := rfl
      rw [head, lines_printed, paint_tint, legend, present, if_neg Bool.false_ne_true, ← String.append_assoc]

theorem listing_printed (coloured : Bool) (start : UInt64) (output : Sql.Output) :
    sqlText coloured start output =
      output.sql.elim (tint coloured .dimmed "(no filter)") (tint coloured .white) ++ "\n" ++
        legend coloured (numbered start output.values) := by
  rw [sqlText, legend_printed]
  cases output.sql with
  | none => exact congrArg (· ++ "\n" ++ _) (paint_tint coloured .dimmed "(no filter)")
  | some sql => exact congrArg (· ++ "\n" ++ _) (paint_tint coloured .white sql)

theorem document_of_result (output : Sql.Output) : documentOf output = resultJson output := by
  have values := Value.to_json_items_map output.values
  unfold resultJson
  rw [← values]
  cases output with
  | inline sql => cases sql <;> rfl
  | bound result =>
      obtain ⟨sql, values⟩ := result
      cases sql <;> rfl

theorem result_sized (output : Sql.Output) : (resultJson output).Sized := by
  have values := Value.to_json_items_sized output.values
  rw [Value.to_json_items_map] at values
  have sql : (sqlJson output.sql).Sized := by
    cases output.sql <;> trivial
  exact ⟨sql, values, trivial⟩

theorem value_holds (value : Value) : Json.Holds value.toJsonText value.toJson := by
  have holds := Json.write_holds Json.Style.compact_blank value.toJson value.to_json_sized "" nofun
  rwa [String.append_empty] at holds

theorem result_float_free (output : Sql.Output) (floatFree : Value.AllFloatFree output.values) :
    (resultJson output).FloatFree := by
  have values := Value.to_json_items_float_free output.values floatFree
  rw [Value.to_json_items_map] at values
  have sql : (sqlJson output.sql).FloatFree := by
    cases output.sql <;> trivial
  exact ⟨sql, values, trivial⟩

variable {options : Sql.RenderOptions String} {filter : Filter String} {output : Sql.Output}

theorem unbound_of_rendered (rendered : filter.render options = .ok output) (unnamed : options.useParameters = false) :
    output.values = [] := by
  rw [Filter.render, Sql.render, unnamed, if_neg (by decide)] at rendered
  cases result : Sql.renderInline filter.root options <;> rw [result] at rendered <;> cases rendered
  rfl

-- Both encodings leave the same gaps, so a name stands where the literal of its value would.
theorem names_of_rendered (rendered : filter.render options = .ok output) (named : options.useParameters = true)
    {root : Node String} (present : filter.root = some root) {sql : String} (text : output.sql = some sql) :
    Names options root sql (numbered options.start output.values) := by
  rw [Filter.render, Sql.render, named, if_pos rfl, present] at rendered
  have positive : options.start ≠ 0 := by
    intro zero
    rw [Sql.renderParameterized, if_pos zero] at rendered
    cases rendered
  have inline := Sql.render_inline_eq root options
  rw [Sql.render_parameterized_eq root options positive] at rendered
  cases failure : Sql.firstError? root with
  | some e =>
      rw [failure] at rendered
      cases rendered
  | none =>
      rw [failure] at rendered inline
      rw [Sql.fragment_literals] at inline
      simp only [Sql.literal_delimited] at inline
      cases rendered
      cases text
      refine ⟨?_, ?_, (Sql.fragment options root).gaps, ?_, ?_, inline⟩
      · rw [numbered_names, numbered_length]
      · rw [numbered_values]
        exact Sql.fragment_operands options root
      · rw [numbered_length, Sql.Fragment.gaps_length]
        rfl
      · rw [numbered_names]
        rfl

theorem presented (coloured : Bool) (arguments : RenderArguments) {settings : Settings}
    (rendered : filter.render settings.options = .ok output) :
    Presents coloured arguments.json settings.options filter output
      (renderText coloured arguments settings output) := by
  refine ⟨unbound_of_rendered rendered, ?_, ?_, ?_⟩
  · intro json
    have holds := Json.write_holds Json.Style.pretty_blank _ (result_sized output) "\n" Json.newline_blank
    rw [renderText, if_pos json, document_of_result]
    exact ⟨holds, fun floatFree fits => Json.holds_read holds (result_float_free output floatFree) fits⟩
  · intro plain
    refine ⟨_, (numbered_values settings.start output.values).symm, ?_, ?_⟩
    · rw [renderText, if_neg (by simp [plain]), listing_printed]
    · intro root present sql text named
      exact names_of_rendered rendered named present text
  · exact fun value _ => ⟨value_holds value, Json.compact_one_line 0 value.toJson⟩

-- The names say which values they are the names of, so there is one listing only.
theorem Names.listed {root : Node String} {sql : String} {bindings : Bindings}
    (names : Names options root sql bindings) :
    bindings = Command.numbered options.start (root.leaves.flatMap Leaf.operands) := by
  have count : bindings.length = (root.leaves.flatMap Leaf.operands).length := by
    rw [← names.values, List.length_map]
  rw [Command.numbered, ← count]
  exact List.zip_of_prod names.numbered names.values

theorem Presents.listed {coloured : Bool} {root : Node String} {sql out : String} {values : List Value}
    (presents : Presents coloured false options ⟨some root⟩ (.bound ⟨some sql, values⟩) out)
    (named : options.useParameters = true) :
    out = tint coloured .white sql ++ "\n" ++ legend coloured (numbered options.start values) := by
  obtain ⟨bindings, held, printed, names⟩ := presents.listing rfl
  have names := names root rfl sql rfl named
  have held : values = bindings.map Prod.snd := held
  rw [printed, held, names.values, ← names.listed]
  rfl

theorem Presents.unlisted {coloured : Bool} {out : String}
    (presents : Presents coloured false options filter output out) (unbound : output.values = []) :
    out = output.sql.elim (tint coloured .dimmed "(no filter)") (tint coloured .white) ++ "\n" := by
  obtain ⟨bindings, held, printed, _⟩ := presents.listing rfl
  obtain rfl := List.map_eq_nil_iff.mp (held.symm.trans unbound)
  exact printed.trans String.append_empty

end Command

end SqlFilter
