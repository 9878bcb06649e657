import SqlFilter.Settings.Reader

/-!
# Settings from their entries

A file says of each setting at most one thing, and the settings are what it says, or the defaults where it says
nothing.
-/

set_option autoImplicit false

namespace SqlFilter

namespace Toml

section Path

variable {fresh : TableOrigin} {passable : TableOrigin → Bool} {change : TableOrigin → Entries → Option Entries}

end Path

end Toml

namespace Settings

-- What settings hold under a name, in the form in which a file gives it.
def get (settings : Settings) : Setting → Found
  | .indentation => .int settings.indentation
  | .useParameters => .bool settings.useParameters
  | .start => .int settings.start.toNat
  | .quoteIdentifiers => .bool settings.quoteIdentifiers

-- Numbers are at most as large as a word.
def Fits (settings : Settings) : Prop :=
  ∀ part n, settings.get part = .int n → n < 18446744073709551616

end Settings

end SqlFilter
