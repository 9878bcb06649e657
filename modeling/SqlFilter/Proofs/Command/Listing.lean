import SqlFilter.Proofs.Command.Stages

/-!
# The list of bound values below the SQL

The numbers in the list are found anew, from the settings that the SQL was rendered with. They are those in the SQL.
-/

set_option autoImplicit false

namespace SqlFilter.Command

/-- A rendering that succeeds prints its result, and beside each value the placeholder that stands for it in the SQL. -/
theorem listing_names_the_placeholders (host : Host Id) (environment : Option String) (words : List String)
    (arguments : RenderArguments) (parsed : ofArguments environment words = .ok (.render arguments))
    (succeeded : (program host false environment words).run.code = 0) :
    ∃ options filter output, Succeeds host arguments options filter output ∧
      (program host false environment words).run.err = "" ∧
      Presents false arguments.json options filter output (program host false environment words).run.out := by
  rw [program_run host false environment words _ parsed, run] at succeeded ⊢
  obtain ⟨options, filter, output, succeeds⟩ := succeeds_unless (sound_of_code false succeeded)
  obtain ⟨_, err, presents⟩ := render_succeeds false succeeds
  exact ⟨options, filter, output, succeeds, err, presents⟩

theorem numbered_past_the_counter :
    (∃ gaps : List String, gaps.length = 3 ∧
      (program (smallHost none smallText) false none ["render", "--start", "9"]).run =
        ⟨0, Sql.weave gaps ["$9", "$10"] ++ "\n\nBindings:\n  $9 = 1\n  $10 = \"x\"\n", ""⟩ ∧
      Sql.renderInline (some smallTree) { start := 9 } = .ok (some (Sql.weave gaps ["1", "x"]))) ∧
    (program (smallHost none smallText) false none ["render", "--start", "18446744073709551615"]).run =
      ⟨0, "(a in ($18446744073709551615, $0) or b is null)\n\nBindings:\n" ++
        "  $18446744073709551615 = 1\n  $0 = \"x\"\n", ""⟩ ∧
    Json.read (program (smallHost none smallText) false none ["render", "--json", "--inline"]).run.out =
      .ok (.object [("sql", .string "(a in (1, x) or b is null)"), ("values", .array [])]) := by
  have ends {arguments : RenderArguments} {words : List String} {options : Sql.RenderOptions String}
      {filter : Filter String} {output : Sql.Output}
      (parsed : ofArguments none words = .ok (.render arguments))
      (succeeds : Succeeds (smallHost none smallText) arguments options filter output) :
      (program (smallHost none smallText) false none words).run.code = 0 := by
    rw [program_run (smallHost none smallText) false none _ _ parsed, run]
    exact (render_succeeds false succeeds).1
  refine ⟨?_, ?_, ?_⟩
  · have bound := small_rendered 9 (by decide) "(a in ($9, $10) or b is null)" rfl
    have parsed : ofArguments none ["render", "--start", "9"] =
        .ok (.render ⟨none, none, false, some 9, false, false, none⟩) := by decide +kernel
    obtain ⟨options, filter, output, succeeds, err, presents⟩ :=
      listing_names_the_placeholders (smallHost none smallText) none _ _ parsed (ends parsed bound)
    obtain ⟨rfl, rfl, rfl⟩ := succeeds_unique bound succeeds
    obtain ⟨bindings, values, out, names⟩ := presents.listing rfl
    have names := names smallTree rfl _ rfl rfl
    obtain ⟨gaps, enough, woven, literal⟩ := names.written
    have listed : bindings = [("$9", .int 1), ("$10", .string "x")] := names.listed.trans (by rfl)
    rw [listed] at woven enough
    have woven : "(a in ($9, $10) or b is null)" = Sql.weave gaps ["$9", "$10"] := woven
    refine ⟨gaps, enough, outcome_shown (ends parsed bound) err ?_, literal⟩
    rw [out, listed, ← woven]
    decide +kernel
  · have bound := small_rendered 18446744073709551615 (by decide) "(a in ($18446744073709551615, $0) or b is null)" rfl
    have parsed : ofArguments none ["render", "--start", "18446744073709551615"] =
        .ok (.render ⟨none, none, false, some 18446744073709551615, false, false, none⟩) := by decide +kernel
    obtain ⟨options, filter, output, succeeds, err, presents⟩ :=
      listing_names_the_placeholders (smallHost none smallText) none _ _ parsed (ends parsed bound)
    obtain ⟨rfl, rfl, rfl⟩ := succeeds_unique bound succeeds
    exact outcome_shown (ends parsed bound) err ((presents.listed rfl).trans (by decide +kernel))
  · have inline : Succeeds (smallHost none smallText) ⟨none, none, true, none, false, true, none⟩
        { useParameters := false } ⟨some smallTree⟩ (.inline (some "(a in (1, x) or b is null)")) :=
      ⟨⟨default, .standard rfl, override_effective _ _⟩, by decide, ⟨_, rfl, small_text_read⟩, rfl⟩
    have parsed : ofArguments none ["render", "--json", "--inline"] =
        .ok (.render ⟨none, none, true, none, false, true, none⟩) := by decide +kernel
    obtain ⟨options, filter, output, succeeds, _, presents⟩ :=
      listing_names_the_placeholders (smallHost none smallText) none _ _ parsed (ends parsed inline)
    obtain ⟨rfl, rfl, rfl⟩ := succeeds_unique inline succeeds
    exact (presents.document rfl).2 trivial (by decide)

end SqlFilter.Command
