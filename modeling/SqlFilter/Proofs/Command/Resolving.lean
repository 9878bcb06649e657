import SqlFilter.Proofs.Command.Stages
import SqlFilter.Proofs.Command.Words
import SqlFilter.Proofs.Settings.Entries

/-!
# Settings from one source

Settings are loaded whole from the first place that has them, and what the line says stands in for the same entry of
them.
-/

set_option autoImplicit false

namespace SqlFilter

namespace Settings

-- The places up to the first where there is a file.
def tried (host : Host Id) : List String → List String
  | [] => []
  | path :: paths => if (host.fileExists path).run then [path] else path :: tried host paths

end Settings

namespace Command

end Command

end SqlFilter
