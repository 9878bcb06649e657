import SqlFilter.Settings.Basic
import SqlFilter.Toml.Reader
import SqlFilter.Value.Json

/-!
Settings from TOML and from JSON. In both an unknown name is an error and a missing one has its default; JSON may also
give the settings as an array by position.
-/

set_option autoImplicit false

namespace SqlFilter

def Toml.layout : Decimal.Layout :=
  ⟨none, true, .up, "NaN", fun negative => if negative then "-inf" else "inf"⟩

def Toml.found : Toml → Found
  | .string s => .string s
  | .integer n => .int n
  | .float x => .float (layout.write x)
  | .boolean b => .bool b
  | .array _ | .tables _ => .sequence
  | .moment _ | .table .. => .map

namespace Settings

def ofToml (text : String) : Except SettingsError Settings :=
  match Toml.read? text with
  | none => .error .malformed
  | some entries =>
      match ofEntries (entries.map fun entry => (entry.1, entry.2.found)) with
      | .error reason => .error (.mismatch reason)
      | .ok settings => settings.check

def tooLong (length : Nat) : String :=
  "invalid length " ++ length.repr ++ ", expected fewer elements in array"

-- The settings of a document, whose members are looked at in the order of their names.
def ofDocument (document : Document) : Except String Settings :=
  match document.json with
  | .object members => ofEntries (members.map fun member => (member.1, member.2.found))
  | .array items =>
      match ofItems (items.map Json.found) with
      | .error reason => .error reason
      | .ok settings => if Setting.all.length < items.length then .error (tooLong items.length) else .ok settings
  | other => .error (Mismatch.invalidType other.found "struct RenderConfig")

end Settings

end SqlFilter
