import SqlFilter.Command.Arguments
import SqlFilter.Command.Host
import SqlFilter.Command.Ink

/-!
Running a command. Each command goes through its stages in order and stops at the first that fails; only when all have
succeeded does it have a text to print.
-/

set_option autoImplicit false

namespace SqlFilter

def FilterError.causes : FilterError → List String
  | .json cause => [FilterError.message (.json cause), cause.message]
  | .io reason => [FilterError.message (.io reason), reason]
  | e => [e.message]

namespace Command

abbrev Source :=
  Option String

def sourceName (source : Source) : String :=
  source.getD "stdin"

inductive Failure
  | settings (cause : FilterError)
  | unreadable (source : Source) (reason : String)
  | undecodable (source : Source) (cause : FilterError)
  | unusable (cause : FilterError)
deriving DecidableEq

-- What is said about a failed command: all causes in a row.
def Failure.message : Failure → String
  | .settings cause => ": ".intercalate ("Failed to load render config" :: cause.causes)
  | .unreadable source reason => ": ".intercalate ["Failed to read " ++ sourceName source, reason]
  | .undecodable source cause => ": ".intercalate (("Invalid filter JSON in " ++ sourceName source) :: cause.causes)
  | .unusable cause => ": ".intercalate cause.causes

def decode (source : Source) : Except String String → Except Failure (Filter String)
  | .error reason => .error (.unreadable source reason)
  | .ok text => (Filter.ofJsonText text).mapError (.undecodable source)

def override (arguments : RenderArguments) (settings : Settings) : Settings where
  indentation := arguments.indent.getD settings.indentation
  useParameters := settings.useParameters && !arguments.inline
  start := arguments.start.getD settings.start
  quoteIdentifiers := settings.quoteIdentifiers || arguments.quote

def effective (arguments : RenderArguments) : Except FilterError Settings → Except Failure Settings
  | .error cause => .error (.settings cause)
  | .ok settings => (override arguments settings).check.mapError fun e => .unusable (.config e.message)

def line (text : String) : String :=
  text ++ "\n"

def documentOf : Sql.Output → Json
  | .bound result => result.toJson
  | .inline sql => Sql.BoundSql.toJson ⟨sql, []⟩

def bindingLines (coloured : Bool) : (number : UInt64) → List Value → String
  | _, [] => ""
  | number, value :: values =>
      line ("  " ++ Sql.placeholder number ++ " = " ++ Ink.yellow.paint coloured value.toJsonText) ++
        bindingLines coloured (number + 1) values

def bindingText (coloured : Bool) (start : UInt64) : List Value → String
  | [] => ""
  | values => line "" ++ line (Ink.cyan.paint coloured "Bindings:") ++ bindingLines coloured start values

def sqlText (coloured : Bool) (start : UInt64) (output : Sql.Output) : String :=
  (match output.sql with
    | some sql => line (Ink.white.paint coloured sql)
    | none => line (Ink.dimmed.paint coloured "(no filter)")) ++ bindingText coloured start output.values

def renderText (coloured : Bool) (arguments : RenderArguments) (settings : Settings) (output : Sql.Output) : String :=
  if arguments.json then line (documentOf output).pretty else sqlText coloured settings.start output

def joinText (arguments : JoinArguments) (filters : List (Filter String)) : String :=
  if arguments.pretty then line (Filter.join arguments.logic filters).toPrettyText
  else line (Filter.join arguments.logic filters).toJsonText

def mark (coloured : Bool) : String :=
  Ink.green.paint coloured "✓"

def countLine (coloured : Bool) (label : String) (count : Nat) : String :=
  line ("  " ++ Ink.dimmed.paint coloured label ++ " " ++ Ink.cyan.paint coloured count.repr)

def checkText (coloured : Bool) (filter : Filter String) : String :=
  match filter.root with
  | none => line (mark coloured ++ " " ++ Ink.dimmed.paint coloured "empty filter (null)")
  | some root =>
      line (mark coloured ++ " valid filter") ++ countLine coloured "Leaves:" root.leafCount ++
        countLine coloured "Depth:" root.depth

variable {m : Type → Type} [Monad m]

def readSource (host : Host m) : Source → m (Except String String)
  | some path => host.readFile path
  | none => host.readInput

def readFilter (host : Host m) (source : Source) : m (Except Failure (Filter String)) := do
  return decode source (← readSource host source)

def readFilters (host : Host m) : List String → m (Except Failure (List (Filter String)))
  | [] => return .ok []
  | path :: paths => do
      match ← readFilter host (some path) with
      | .error failure => return .error failure
      | .ok filter =>
          match ← readFilters host paths with
          | .error failure => return .error failure
          | .ok filters => return .ok (filter :: filters)

def runRender (host : Host m) (coloured : Bool) (arguments : RenderArguments) : m (Except Failure String) := do
  match effective arguments (← Settings.load host arguments.settings) with
  | .error failure => return .error failure
  | .ok settings =>
      match ← readFilter host arguments.file with
      | .error failure => return .error failure
      | .ok filter =>
          match filter.render settings.options with
          | .error cause => return .error (.unusable cause)
          | .ok output => return .ok (renderText coloured arguments settings output)

def runJoin (host : Host m) (arguments : JoinArguments) : m (Except Failure String) := do
  match ← readFilters host arguments.files with
  | .error failure => return .error failure
  | .ok filters => return .ok (joinText arguments filters)

def runCheck (host : Host m) (coloured : Bool) (source : Source) : m (Except Failure String) := do
  match ← readFilter host source with
  | .error failure => return .error failure
  | .ok filter =>
      match filter.renderInline {} with
      | .error cause => return .error (.unusable cause)
      | .ok _ => return .ok (checkText coloured filter)

def run (host : Host m) (coloured : Bool) : Command → m (Except Failure String)
  | .render arguments => runRender host coloured arguments
  | .join arguments => runJoin host arguments
  | .check source => runCheck host coloured source

end Command

structure Outcome where
  code : Nat
  out : String
  err : String
deriving DecidableEq

namespace Outcome

def usage : String :=
  "Render JSON filter trees to SQL WHERE fragments\n\nUsage: datafilter [OPTIONS] <COMMAND>\n\nCommands:\n" ++
  "  render  Render a filter to SQL\n  join    Join several filters under one group and print the result\n" ++
  "  check   Validate a filter and summarise it\n  help    Print this message or the help of the given subcommand(s)\n"

def ofDetour : Detour → Outcome
  | .usageError => ⟨2, "", usage⟩
  | .help => ⟨0, usage, ""⟩
  | .version => ⟨0, "datafilter 0.1.0\n", ""⟩

def ofResult (coloured : Bool) : Except Command.Failure String → Outcome
  | .ok text => ⟨0, text, ""⟩
  | .error failure => ⟨1, "", Ink.alarm.paint coloured "Error:" ++ " " ++ failure.message ++ "\n"⟩

end Outcome

def program {m : Type → Type} [Monad m] (host : Host m) (coloured : Bool) (environment : Option String)
    (arguments : List String) : m Outcome := do
  match Command.ofArguments environment arguments with
  | .error detour => return .ofDetour detour
  | .ok command => return .ofResult coloured (← command.run host coloured)

end SqlFilter
