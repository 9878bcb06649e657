/-!
Colours of terminal output. A text in an ink stands between two control sequences; if it ends the ink itself
somewhere, the ink is taken up again there.
-/

set_option autoImplicit false

namespace SqlFilter

inductive Ink
  | white
  | dimmed
  | cyan
  | yellow
  | green
  | alarm
deriving DecidableEq

namespace Ink

def codes : Ink → String
  | .white => "37"
  | .dimmed => "2"
  | .cyan => "36"
  | .yellow => "33"
  | .green => "32"
  | .alarm => "1;31"

def start (ink : Ink) : List Char :=
  '\x1b' :: '[' :: ink.codes.toList ++ ['m']

def reset : List Char :=
  ['\x1b', '[', '0', 'm']

-- A text with an ink taken up again after each sequence that switches it off.
def resume (ink : Ink) : List Char → List Char
  | [] => []
  | '\x1b' :: '[' :: '0' :: 'm' :: rest => reset ++ ink.start ++ resume ink rest
  | c :: rest => c :: resume ink rest

def paint (coloured : Bool) (ink : Ink) (text : String) : String :=
  if coloured then String.ofList (ink.start ++ resume ink text.toList ++ reset) else text

end Ink

end SqlFilter
