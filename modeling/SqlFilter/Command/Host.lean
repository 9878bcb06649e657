import SqlFilter.Settings.Reader

/-!
What a run can ask of its surroundings, and the render settings that it finds there. A failed reading is given by its
reason. The surroundings answer in any monad, so that a run can be studied without input and output.
-/

set_option autoImplicit false

namespace SqlFilter

structure Host (m : Type → Type) where
  readFile : String → m (Except String String)
  fileExists : String → m Bool
  readInput : m (Except String String)
  settingsDirectory : Option String

namespace Settings

def below (directory path : String) : String :=
  if directory.endsWith "/" then directory ++ path else directory ++ "/" ++ path

def locations (directory : Option String) : List String :=
  "datafilter.toml" :: directory.toList.map fun directory => below directory "datafilter/config.toml"

def ofFileText (path : String) : Except String String → Except FilterError Settings
  | .error reason => .error (.io reason)
  | .ok text =>
      match ofToml text with
      | .ok settings => .ok settings
      | .error e => .error (.config (path ++ ": " ++ e.message))

variable {m : Type → Type} [Monad m]

def ofFile (host : Host m) (path : String) : m (Except FilterError Settings) := do
  return ofFileText path (← host.readFile path)

def ofFirst (host : Host m) : List String → m (Except FilterError Settings)
  | [] => return .ok default
  | path :: paths => do
      if ← host.fileExists path then ofFile host path else ofFirst host paths

def load (host : Host m) : (named : Option String) → m (Except FilterError Settings)
  | some path => ofFile host path
  | none => ofFirst host (locations host.settingsDirectory)

end Settings

end SqlFilter
