/-!
TOML documents as trees, and the rules for adding to them. Keys of a table keep their order. What may still be added
to a table depends on how the table came to be: `addKey` is for a key with its value, `addTable` and `addElement` are
for the two kinds of headers.
-/

set_option autoImplicit false

namespace SqlFilter

inductive TableOrigin
  -- It has a header of its own, or is the whole document.
  | header
  -- It is only named on the way to the table of a header.
  | path
  -- It is named before a dot of a key.
  | dotted
  -- It is written between braces.
  | braces
deriving DecidableEq

inductive Toml
  | string (s : String)
  | integer (n : Int)
  | float (x : Float)
  | boolean (b : Bool)
  | moment (spelling : String)
  | array (items : List Toml)
  | table (origin : TableOrigin) (entries : List (String × Toml))
  | tables (elements : List (List (String × Toml)))

namespace Toml

abbrev Entries :=
  List (String × Toml)

structure Key where
  path : List String
  name : String

inductive Header
  | table (key : Key)
  | element (key : Key)

inductive Statement
  | entry (key : Key) (value : Toml)
  | header (header : Header)

def replace (name : String) (value : Toml) (entries : Entries) : Entries :=
  entries.map fun entry => if entry.1 == name then (name, value) else entry

-- The entries with a change made in the table at the end of a path, which is given with its origin. Tables that are
-- missing on the way are made with the origin `fresh`; a table is entered only if its origin is `passable`. Of a list
-- of tables the last one is entered.
def atPath (fresh : TableOrigin) (passable : TableOrigin → Bool) (change : TableOrigin → Entries → Option Entries) :
    (path : List String) → TableOrigin → Entries → Option Entries
  | [], origin, entries => change origin entries
  | name :: path, _, entries =>
      match entries.lookup name with
      | none =>
          (atPath fresh passable change path fresh []).map fun inner => entries ++ [(name, .table fresh inner)]
      | some (.table origin inner) =>
          if passable origin then
            (atPath fresh passable change path origin inner).map fun inner => replace name (.table origin inner) entries
          else none
      | some (.tables elements) =>
          match elements.getLast? with
          | none => none
          | some last =>
              (atPath fresh passable change path .header last).map fun last =>
                replace name (.tables (elements.dropLast ++ [last])) entries
      | some _ => none

def addEntry (name : String) (value : Toml) (entries : Entries) : Option Entries :=
  if (entries.lookup name).isSome then none else some (entries ++ [(name, value)])

-- The entries with a key and its value. The dots of a key lead only through tables without a header, and only into a
-- table that dots have made.
def addKey (key : Key) (value : Toml) (entries : Entries) : Option Entries :=
  atPath .dotted (fun origin => origin = .path || origin = .dotted)
    (fun origin entries => if origin = .dotted then addEntry key.name value entries else none) key.path .dotted entries

def addKeys (lines : List (Key × Toml)) (entries : Entries) : Option Entries :=
  lines.foldlM (fun entries line => addKey line.1 line.2 entries) entries

def atHeader (key : Key) (change : Entries → Option Entries) (root : Entries) : Option Entries :=
  atPath .path (fun origin => origin ≠ .braces) (fun _ => change) key.path .header root

-- The document with a table under a header. What was only named on the way to other tables gets its own content and
-- moves to the end.
def addTable (key : Key) (lines : List (Key × Toml)) : Entries → Option Entries :=
  atHeader key fun entries =>
    match entries.lookup key.name with
    | none => (addKeys lines []).map fun inner => entries ++ [(key.name, .table .header inner)]
    | some (.table .path inner) =>
        (addKeys lines inner).map fun inner => entries.filter (·.1 != key.name) ++ [(key.name, .table .header inner)]
    | some _ => none

def addElement (key : Key) (lines : List (Key × Toml)) : Entries → Option Entries :=
  atHeader key fun entries =>
    match entries.lookup key.name with
    | none => (addKeys lines []).map fun element => entries ++ [(key.name, .tables [element])]
    | some (.tables elements) =>
        (addKeys lines []).map fun element => replace key.name (.tables (elements ++ [element])) entries
    | some _ => none

def sections : List Statement → List (Key × Toml) × List (Header × List (Key × Toml))
  | [] => ([], [])
  | .entry key value :: rest => ((key, value) :: (sections rest).1, (sections rest).2)
  | .header header :: rest => ([], (header, (sections rest).1) :: (sections rest).2)

def addSection (root : Entries) : Header × List (Key × Toml) → Option Entries
  | (.table key, lines) => addTable key lines root
  | (.element key, lines) => addElement key lines root

def ofStatements? (statements : List Statement) : Option Entries := do
  let root ← addKeys (sections statements).1 []
  (sections statements).2.foldlM addSection root

end Toml

end SqlFilter
