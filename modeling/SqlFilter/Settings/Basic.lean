import SqlFilter.Error
import SqlFilter.Mismatch
import SqlFilter.Sql.Render

/-!
Render settings: what a user may decide about the SQL of a filter, under four names. A value for a name is accepted by
its kind alone, whatever format it was written in.
-/

set_option autoImplicit false

namespace SqlFilter

structure Settings where
  indentation : Nat := 0
  useParameters : Bool := true
  start : UInt64 := 1
  quoteIdentifiers : Bool := false
deriving DecidableEq

inductive SettingsError
  | malformed
  | mismatch (reason : String)
  | zeroStart
deriving DecidableEq

def SettingsError.message : SettingsError → String
  | .malformed => "TOML parse error"
  | .mismatch reason => "TOML parse error\n" ++ reason
  | .zeroStart => FilterError.zeroStart

inductive Setting
  | indentation
  | useParameters
  | start
  | quoteIdentifiers
deriving DecidableEq

namespace Setting

def all : List Setting :=
  [.indentation, .useParameters, .start, .quoteIdentifiers]

def name : Setting → String
  | .indentation => "indentation"
  | .useParameters => "use_parameters"
  | .start => "parameter_start_index"
  | .quoteIdentifiers => "quote_identifiers"

def ofName (name : String) : Except String Setting :=
  match all.find? fun part => part.name == name with
  | some part => .ok part
  | none => .error (Mismatch.unknown "field" name (all.map Setting.name))

end Setting

def Found.natural : Found → Except String Nat
  | .int n =>
      if 0 ≤ n && n < 18446744073709551616 then .ok n.toNat else .error (Mismatch.invalidValue (.int n) "usize")
  | found => .error (Mismatch.invalidType found "usize")

def Found.truth : Found → Except String Bool
  | .bool b => .ok b
  | found => .error (Mismatch.invalidType found "a boolean")

namespace Settings

instance : Inhabited Settings :=
  ⟨{}⟩

def put (settings : Settings) (found : Found) : Setting → Except String Settings
  | .indentation => found.natural.map fun n => { settings with indentation := n }
  | .useParameters => found.truth.map fun b => { settings with useParameters := b }
  | .start => found.natural.map fun n => { settings with start := .ofNat n }
  | .quoteIdentifiers => found.truth.map fun b => { settings with quoteIdentifiers := b }

def putNamed (settings : Settings) (entry : String × Found) : Except String Settings :=
  match Setting.ofName entry.1 with
  | .ok part => settings.put entry.2 part
  | .error reason => .error reason

-- The settings that name parts, and the defaults for all others. The first bad name or value is the error.
def ofEntries (entries : List (String × Found)) : Except String Settings :=
  entries.foldlM putNamed default

def ofItems (items : List Found) : Except String Settings :=
  (items.zip Setting.all).foldlM (fun settings item => settings.put item.1 item.2) default

def check (settings : Settings) : Except SettingsError Settings :=
  if settings.start = 0 then .error .zeroStart else .ok settings

def options (settings : Settings) : Sql.RenderOptions String where
  transformer := if settings.quoteIdentifiers then some Sql.quoteIdentifiers else none
  indentation := settings.indentation
  useParameters := settings.useParameters
  start := settings.start

end Settings

end SqlFilter
