import SqlFilter.Toml.Scalar
import SqlFilter.Toml.Text

/-!
Reading TOML documents: values with arrays and tables between brackets, then lines, then the whole text.
-/

set_option autoImplicit false

namespace SqlFilter.Toml

def readSimple (cs : List Char) : Option (Toml × List Char) :=
  match cs with
  | '"' :: _ | '\'' :: _ => (scanText cs).map fun (text, rest) => (.string (String.ofList text), rest)
  | cs => scanScalar cs

def readItems (readValue : List Char → Option (Toml × List Char)) :
    (fuel : Nat) → List Char → Option (List Toml × List Char)
  | 0, _ => none
  | _ + 1, ']' :: rest => some ([], rest)
  | fuel + 1, cs =>
      match readValue cs with
      | none => none
      | some (item, rest) =>
          match skipLines false rest with
          | ',' :: rest =>
              (readItems readValue fuel (skipLines false rest)).map fun (items, rest) => (item :: items, rest)
          | ']' :: rest => some ([item], rest)
          | _ => none

def readEntry (readValue : List Char → Option (Toml × List Char)) (cs : List Char) :
    Option ((Key × Toml) × List Char) :=
  match scanKey cs with
  | some (key, '=' :: rest) => (readValue (skipBlanks rest)).map fun (value, rest) => ((key, value), skipBlanks rest)
  | _ => none

def readEntries (readValue : List Char → Option (Toml × List Char)) :
    (fuel : Nat) → List Char → Option (List (Key × Toml) × List Char)
  | 0, _ => none
  | fuel + 1, cs =>
      match readEntry readValue cs with
      | some (entry, ',' :: rest) =>
          (readEntries readValue fuel rest).map fun (entries, rest) => (entry :: entries, rest)
      | some (entry, '}' :: rest) => some ([entry], rest)
      | _ => none

def readBraces (readValue : List Char → Option (Toml × List Char)) (cs : List Char) : Option (Toml × List Char) :=
  match skipBlanks cs with
  | '}' :: rest => some (.table .braces [], rest)
  | rest =>
      match readEntries readValue (rest.length + 1) rest with
      | none => none
      | some (lines, rest) => (addKeys lines []).map fun entries => (.table .braces entries, rest)

-- The value at the front of a text, with room for so many brackets within each other.
def readValue : (room : Nat) → List Char → Option (Toml × List Char)
  | room + 1, '[' :: rest =>
      (readItems (readValue room) (rest.length + 1) (skipLines false rest)).map fun (items, rest) =>
        (.array items, rest)
  | room + 1, '{' :: rest => readBraces (readValue room) rest
  | _, cs => readSimple cs

def readHeader : List Char → Option (Header × List Char)
  | '[' :: rest =>
      match scanKey rest with
      | some (key, ']' :: ']' :: rest) => (finishLine? rest).map fun rest => (.element key, rest)
      | _ => none
  | rest =>
      match scanKey rest with
      | some (key, ']' :: rest) => (finishLine? rest).map fun rest => (.table key, rest)
      | _ => none

def readStatement (cs : List Char) : Option (Statement × List Char) :=
  match cs with
  | '[' :: rest => (readHeader rest).map fun (header, rest) => (.header header, rest)
  | cs =>
      match readEntry (readValue (limit - 1)) cs with
      | none => none
      | some ((key, value), rest) => (finishLine? rest).map fun rest => (.entry key value, rest)

def readStatements : (fuel : Nat) → List Char → Option (List Statement)
  | 0, _ => none
  | fuel + 1, cs =>
      match skipLines false cs with
      | [] => some []
      | cs =>
          match readStatement cs with
          | none => none
          | some (statement, rest) => (readStatements fuel rest).map (statement :: ·)

def dropMark : List Char → List Char
  | '\uFEFF' :: rest => rest
  | rest => rest

def read? (text : String) : Option Entries :=
  (readStatements (text.length + 1) (dropMark text.toList)).bind ofStatements?

end SqlFilter.Toml
