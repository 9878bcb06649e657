import SqlFilter.Command.Run

/-!
The program: its surroundings are the files, the standard input and the environment of the process.
-/

set_option autoImplicit false

namespace SqlFilter

-- The number of a failure of the system. Some calls give it below zero, as a word of 32 bits.
def failureNumber (code : UInt32) : Nat :=
  min code.toNat (4294967296 - code.toNat)

def systemReason : IO.Error → String
  | .noFileOrDirectory _ code details
  | .noSuchThing _ code details
  | .permissionDenied _ code details
  | .inappropriateType _ code details
  | .invalidArgument _ code details => details.capitalize ++ " (os error " ++ (failureNumber code).repr ++ ")"
  | e => toString e

def decodeText (bytes : ByteArray) : Except String String :=
  match String.fromUTF8? bytes with
  | some text => .ok text
  | none => .error "stream did not contain valid UTF-8"

def readSystemFile (path : String) : IO (Except String String) := do
  match ← (IO.FS.readBinFile path).toBaseIO with
  | .ok bytes => return decodeText bytes
  | .error e => return .error (systemReason e)

def existsInSystem (path : String) : IO Bool := do
  match ← (IO.FS.readBinFile path).toBaseIO with
  | .error (.noFileOrDirectory ..) => return false
  -- a part of the path before the last one is a file
  | .error (.inappropriateType _ code _) => return failureNumber code != 20
  | _ => return true

def readSystemInput : IO (Except String String) := do
  let input ← IO.getStdin
  match ← input.readBinToEnd.toBaseIO with
  | .ok bytes => return decodeText bytes
  | .error e => return .error (systemReason e)

def settingsDirectory : IO (Option String) := do
  match ← IO.getEnv "XDG_CONFIG_HOME", ← IO.getEnv "HOME" with
  | some path, home =>
      if path.startsWith "/" then return some path
      else return home.map fun home => Settings.below home ".config"
  | none, home => return home.map fun home => Settings.below home ".config"

-- Whether the output shall be coloured. A wish in the environment counts before the kind of the output.
def wantsColour : IO Bool := do
  let forced ← IO.getEnv "CLICOLOR_FORCE"
  if forced.any (· != "0") then return true
  if (← IO.getEnv "NO_COLOR").isSome then return false
  if (← IO.getEnv "CLICOLOR").any (· == "0") then return false
  (← IO.getStdout).isTty

end SqlFilter

open SqlFilter in
def main (arguments : List String) : IO UInt32 := do
  let host : Host IO := ⟨readSystemFile, existsInSystem, readSystemInput, ← settingsDirectory⟩
  let outcome ← program host (← wantsColour) (← IO.getEnv "DATAFILTER_CONFIG") arguments
  IO.print outcome.out
  IO.eprint outcome.err
  return outcome.code.toUInt32
