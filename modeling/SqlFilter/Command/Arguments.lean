import SqlFilter.Logic

/-!
The command line: which words are a command, its options and its operands. Words are looked at from left to right, and
the first that decides the outcome does.
-/

set_option autoImplicit false

namespace SqlFilter

structure RenderArguments where
  file : Option String
  indent : Option Nat
  inline : Bool
  start : Option UInt64
  quote : Bool
  json : Bool
  settings : Option String
deriving DecidableEq

structure JoinArguments where
  logic : Logic
  files : List String
  pretty : Bool
deriving DecidableEq

inductive Command
  | render (arguments : RenderArguments)
  | join (arguments : JoinArguments)
  | check (file : Option String)
deriving DecidableEq

inductive Detour
  | usageError
  | help
  | version
deriving DecidableEq

namespace Command

structure Grammar where
  flags : List String
  options : List (String × (String → Bool))
  letters : List (Char × String)
  manyOperands : Bool

structure Words where
  flags : List String
  options : List (String × String)
  operands : List String

namespace Words

def none : Words :=
  ⟨[], [], []⟩

-- One more flag. It may be given once; asking for help or for the version ends the reading.
def addFlag (name : String) (words : Words) : Except Detour Words :=
  if name = "help" then .error .help
  else if name = "version" then .error .version
  else if name ∈ words.flags then .error .usageError
  else .ok { words with flags := name :: words.flags }

def addOption (name value : String) (accepts : String → Bool) (words : Words) : Except Detour Words :=
  if accepts value && (words.options.lookup name).isNone then
    .ok { words with options := (name, value) :: words.options }
  else .error .usageError

def addOperand (grammar : Grammar) (operand : String) (words : Words) : Except Detour Words :=
  if operand.isEmpty || (!grammar.manyOperands && !words.operands.isEmpty) then .error .usageError
  else .ok { words with operands := words.operands ++ [operand] }

def addLetters (grammar : Grammar) (letters : List Char) (words : Words) : Except Detour Words :=
  letters.foldlM (fun words letter =>
    match grammar.letters.lookup letter with
    | some name => words.addFlag name
    | Option.none => .error .usageError) words

def isOption (word : String) : Bool :=
  word.startsWith "-" && word != "-"

def splitLong (word : List Char) : String × Option String :=
  match word.dropWhile (· != '=') with
  | [] => (String.ofList word, Option.none)
  | _ :: value => (String.ofList (word.takeWhile (· != '=')), some (String.ofList value))

-- Words as they follow each other: options and operands, and after a `--` operands only.
def read (grammar : Grammar) : List String → Words → Except Detour Words
  | [], words => .ok words
  | word :: rest, words =>
      match word.toList with
      | ['-', '-'] => rest.foldlM (fun words operand => words.addOperand grammar operand) words
      | '-' :: '-' :: long =>
          match splitLong long with
          | (name, value) =>
              if name ∈ grammar.flags then
                match value with
                | some _ => .error .usageError
                | Option.none =>
                    match words.addFlag name with
                    | .ok words => read grammar rest words
                    | .error detour => .error detour
              else
                match grammar.options.lookup name, value, rest with
                | Option.none, _, _ | some _, Option.none, [] => .error .usageError
                | some accepts, some value, rest =>
                    match words.addOption name value accepts with
                    | .ok words => read grammar rest words
                    | .error detour => .error detour
                | some accepts, Option.none, value :: rest =>
                    if isOption value then .error .usageError
                    else
                      match words.addOption name value accepts with
                      | .ok words => read grammar rest words
                      | .error detour => .error detour
      | '-' :: letter :: letters =>
          match words.addLetters grammar (letter :: letters) with
          | .ok words => read grammar rest words
          | .error detour => .error detour
      | _ =>
          match words.addOperand grammar word with
          | .ok words => read grammar rest words
          | .error detour => .error detour

end Words

def natural? (text : String) : Option Nat :=
  let digits := match text.toList with
    | '+' :: rest => rest
    | all => all
  if digits.isEmpty || !digits.all Char.isDigit then none
  else
    let n := Nat.ofDigitChars 10 digits 0
    if n < 18446744073709551616 then some n else none

def commonFlags : List String :=
  ["verbose", "help"]

def commonLetters : List (Char × String) :=
  [('v', "verbose"), ('h', "help")]

def renderGrammar : Grammar where
  flags := ["inline", "quote", "json"] ++ commonFlags
  options := [("indent", fun text => (natural? text).isSome), ("start", fun text => (natural? text).isSome),
    ("config", fun text => !text.isEmpty)]
  letters := commonLetters
  manyOperands := false

def joinGrammar : Grammar where
  flags := "pretty" :: commonFlags
  options := [("logic", fun text => (Logic.ofWord? text).isSome)]
  letters := commonLetters
  manyOperands := true

def checkGrammar : Grammar where
  flags := commonFlags
  options := []
  letters := commonLetters
  manyOperands := false

-- The file of the settings: the one in the words, or else the one in the environment, which must not be empty.
def settingsFile (environment : Option String) (words : Words) : Except Detour (Option String) :=
  match words.options.lookup "config", environment with
  | some path, _ => .ok (some path)
  | none, some "" => .error .usageError
  | none, path => .ok path

def ofRenderWords (environment : Option String) (words : Words) : Except Detour Command :=
  match settingsFile environment words with
  | .error detour => .error detour
  | .ok settings => .ok (.render {
      file := words.operands.head?
      indent := (words.options.lookup "indent").bind natural?
      inline := "inline" ∈ words.flags
      start := ((words.options.lookup "start").bind natural?).map UInt64.ofNat
      quote := "quote" ∈ words.flags
      json := "json" ∈ words.flags
      settings := settings })

def ofJoinWords (words : Words) : Except Detour Command :=
  if words.operands.isEmpty then .error .usageError
  else .ok (.join {
    logic := ((words.options.lookup "logic").bind Logic.ofWord?).getD .and
    files := words.operands
    pretty := "pretty" ∈ words.flags })

def ofCheckWords (words : Words) : Except Detour Command :=
  .ok (.check words.operands.head?)

def helpTopic : List String → Detour
  | [] => .help
  | [name] => if name ∈ ["render", "join", "check", "help"] then .help else .usageError
  | _ => .usageError

def leadGrammar : Grammar where
  flags := "version" :: commonFlags
  options := []
  letters := ('V', "version") :: commonLetters
  manyOperands := false

-- The command that words stand for, given the file of settings that the environment names. `lead` are the options
-- before the name of the command.
def ofLeadWords (environment : Option String) : List String → (lead : Words) → Except Detour Command
  | [], _ => .error .usageError
  | "render" :: rest, _ => Words.read renderGrammar rest .none >>= ofRenderWords environment
  | "join" :: rest, _ => Words.read joinGrammar rest .none >>= ofJoinWords
  | "check" :: rest, _ => Words.read checkGrammar rest .none >>= ofCheckWords
  | "help" :: rest, _ => .error (helpTopic rest)
  | word :: rest, lead =>
      if word = "--" || !Words.isOption word then .error .usageError
      else
        match Words.read leadGrammar [word] lead with
        | .ok lead => ofLeadWords environment rest lead
        | .error detour => .error detour

def ofArguments (environment : Option String) (arguments : List String) : Except Detour Command :=
  ofLeadWords environment arguments .none

end Command

end SqlFilter
