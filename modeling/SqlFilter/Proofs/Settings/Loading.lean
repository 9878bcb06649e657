import SqlFilter.Command.Run

/-!
# Loading settings

Which file settings come from, and what is wrong with them when they cannot be had from it. A run has settings or a
fault in them, and never both.
-/

set_option autoImplicit false

namespace SqlFilter.Settings

-- What a text of settings says, whether or not that can be used.
def stated (text : String) : Except SettingsError Settings :=
  match Toml.read? text with
  | none => .error .malformed
  | some entries => (ofEntries (entries.map fun entry => (entry.1, entry.2.found))).mapError .mismatch

theorem of_toml_stated (text : String) : ofToml text = (stated text).bind check := by
  unfold ofToml stated
  cases Toml.read? text with
  | none => rfl
  | some entries =>
      dsimp only
      cases ofEntries (entries.map fun entry => (entry.1, entry.2.found)) <;> rfl

theorem stated_error {text : String} {e : SettingsError} (failed : stated text = .error e) :
    e = .malformed ∨ ∃ reason, e = .mismatch reason := by
  unfold stated at failed
  cases tree : Toml.read? text with
  | none =>
      rw [tree] at failed
      exact .inl (Except.error.inj failed).symm
  | some entries =>
      rw [tree] at failed
      dsimp only at failed
      cases read : ofEntries (entries.map fun entry => (entry.1, entry.2.found)) with
      | error reason =>
          rw [read] at failed
          exact .inr ⟨reason, (Except.error.inj failed).symm⟩
      | ok settings =>
          rw [read] at failed
          cases failed

-- The file that settings come from: the named one, whether it exists or not, or else the first of the usual places
-- where there is a file.
def source (host : Host Id) (named : Option String) : Option String :=
  named.or ((locations host.settingsDirectory).find? fun path => (host.fileExists path).run)

inductive Loaded (host : Host Id) (named : Option String) : Settings → Prop
  | standard (nowhere : source host named = none) : Loaded host named default
  | read {path text : String} {settings : Settings} (found : source host named = some path)
      (content : (host.readFile path).run = .ok text) (sound : stated text = .ok settings)
      (positive : settings.start ≠ 0) : Loaded host named settings

-- What is wrong with the settings, as it is told. The start that a file gives is checked before anything is put in its
-- place.
inductive LoadFails (host : Host Id) (named : Option String) : String → Prop
  | unreadable {path reason : String} (found : source host named = some path)
      (failed : (host.readFile path).run = .error reason) :
      LoadFails host named ("IO error: " ++ reason ++ ": " ++ reason)
  | malformed {path text : String} (found : source host named = some path)
      (content : (host.readFile path).run = .ok text) (failed : stated text = .error .malformed) :
      LoadFails host named ("Configuration error: " ++ path ++ ": TOML parse error")
  | mismatch {path text reason : String} (found : source host named = some path)
      (content : (host.readFile path).run = .ok text) (failed : stated text = .error (.mismatch reason)) :
      LoadFails host named ("Configuration error: " ++ path ++ ": TOML parse error\n" ++ reason)
  | zeroStart {path text : String} {settings : Settings} (found : source host named = some path)
      (content : (host.readFile path).run = .ok text) (sound : stated text = .ok settings)
      (zero : settings.start = 0) :
      LoadFails host named ("Configuration error: " ++ path ++ ": parameter_start_index must be at least 1")

theorem load_source (host : Host Id) (named : Option String) :
    (load host named).run =
      match source host named with
      | none => .ok default
      | some path => ofFileText path (host.readFile path).run := by
  cases named with
  | some path => rfl
  | none =>
      unfold load source
      rw [Option.none_or]
      induction locations host.settingsDirectory with
      | nil => rfl
      | cons path paths ih =>
          have first : (ofFirst host (path :: paths)).run =
              if (host.fileExists path).run then ofFileText path (host.readFile path).run
              else (ofFirst host paths).run := rfl
          rw [first, List.find?_cons, ih]
          cases (host.fileExists path).run <;> rfl

theorem of_file_text_stated (path text : String) :
    ofFileText path (.ok text) =
      ((stated text).bind check).mapError fun e => .config (path ++ ": " ++ e.message) := by
  rw [ofFileText, of_toml_stated]
  cases (stated text).bind check <;> rfl

variable {host : Host Id} {named : Option String}

theorem loaded_run {settings : Settings} (loaded : Loaded host named settings) :
    (load host named).run = .ok settings := by
  rw [load_source]
  cases loaded with
  | standard nowhere => rw [nowhere]
  | read found content sound positive =>
      rw [found]
      dsimp only
      rw [content, of_file_text_stated, sound, Except.bind, check, if_neg positive]
      rfl

theorem load_found {path : String} (found : source host named = some path) :
    (load host named).run = ofFileText path (host.readFile path).run := by
  rw [load_source, found]

theorem config_causes (path told : String) :
    ": ".intercalate (FilterError.config (path ++ ": " ++ told)).causes =
      "Configuration error: " ++ path ++ (": " ++ told) := by
  have alone : ": ".intercalate (FilterError.config (path ++ ": " ++ told)).causes =
      "Configuration error: " ++ (path ++ ": " ++ told) := rfl
  rw [alone, String.append_assoc, String.append_assoc]

theorem load_fails_run {told : String} (fails : LoadFails host named told) :
    ∃ cause, (load host named).run = .error cause ∧ ": ".intercalate cause.causes = told := by
  cases fails with
  | @unreadable path reason found failed =>
      refine ⟨.io reason, ?_, rfl⟩
      rw [load_found found, failed, ofFileText]
  | @malformed path text found content failed =>
      refine ⟨.config (path ++ ": " ++ SettingsError.malformed.message), ?_, config_causes path _⟩
      rw [load_found found, content, of_file_text_stated, failed]
      rfl
  | @mismatch path text reason found content failed =>
      have together : ": " ++ (SettingsError.mismatch reason).message = ": TOML parse error\n" ++ reason :=
        String.append_assoc.symm
      refine ⟨.config (path ++ ": " ++ (SettingsError.mismatch reason).message), ?_, ?_⟩
      · rw [load_found found, content, of_file_text_stated, failed]
        rfl
      · rw [config_causes, together, ← String.append_assoc]
  | @zeroStart path text settings found content sound zero =>
      refine ⟨.config (path ++ ": " ++ SettingsError.zeroStart.message), ?_, config_causes path _⟩
      rw [load_found found, content, of_file_text_stated, sound, Except.bind, check, if_pos zero]
      rfl

theorem load_settled (host : Host Id) (named : Option String) :
    (∃ settings, Loaded host named settings) ∨ ∃ told, LoadFails host named told := by
  cases found : source host named with
  | none => exact .inl ⟨default, .standard found⟩
  | some path =>
      cases content : (host.readFile path).run with
      | error reason => exact .inr ⟨_, .unreadable found content⟩
      | ok text =>
          cases said : stated text with
          | error e =>
              rcases stated_error said with rfl | ⟨reason, rfl⟩
              · exact .inr ⟨_, .malformed found content said⟩
              · exact .inr ⟨_, .mismatch found content said⟩
          | ok settings =>
              by_cases zero : settings.start = 0
              · exact .inr ⟨_, .zeroStart found content said zero⟩
              · exact .inl ⟨settings, .read found content said zero⟩

theorem loaded_unique {settings other : Settings} (loaded : Loaded host named settings)
    (otherLoaded : Loaded host named other) : settings = other :=
  Except.ok.inj ((loaded_run loaded).symm.trans (loaded_run otherLoaded))

theorem loaded_sound {settings : Settings} (loaded : Loaded host named settings) (told : String) :
    ¬ LoadFails host named told := by
  intro fails
  obtain ⟨cause, failed, _⟩ := load_fails_run fails
  cases (loaded_run loaded).symm.trans failed

end SqlFilter.Settings
