import SqlFilter.Text.Hex
import SqlFilter.Toml.Basic

/-!
The characters of TOML: blanks, line ends and comments, the four kinds of strings, and keys.
-/

set_option autoImplicit false

namespace SqlFilter.Toml

def isPlain (c : Char) : Bool :=
  c == '\t' || (0x20 ≤ c.toNat && c.toNat != 0x7F)

def isBlank (c : Char) : Bool :=
  c == ' ' || c == '\t'

def skipBlanks (cs : List Char) : List Char :=
  cs.dropWhile isBlank

-- The text after the blanks, comments and line ends at its front. In a comment up to the end of its line.
def skipLines : (inComment : Bool) → List Char → List Char
  | _, [] => []
  | _, '\n' :: rest => skipLines false rest
  | _, '\r' :: '\n' :: rest => skipLines false rest
  | true, c :: rest => if isPlain c then skipLines true rest else c :: rest
  | false, c :: rest =>
      if c = '#' then skipLines true rest
      else if isBlank c then skipLines false rest
      else c :: rest

def skipLineEnd? : List Char → Option (List Char)
  | [] => some []
  | '\n' :: rest => some rest
  | '\r' :: '\n' :: rest => some rest
  | _ => none

def finishLine? (cs : List Char) : Option (List Char) :=
  match skipBlanks cs with
  | '#' :: rest => skipLineEnd? (rest.dropWhile isPlain)
  | rest => skipLineEnd? rest

def shortEscapes : List (Char × Char) :=
  [('"', '"'), ('\\', '\\'), ('b', '\x08'), ('f', '\x0c'), ('n', '\n'), ('r', '\r'), ('t', '\t')]

def coded? (digits : List Char) : Option Char :=
  (Text.hexNumber? digits).bind fun code =>
    if code < 0xD800 || (0xE000 ≤ code && code < 0x110000) then some (Char.ofNat code) else none

def push (c : Option Char) (scanned : Option (List Char × List Char)) : Option (List Char × List Char) := do
  return ((← c) :: (← scanned).1, (← scanned).2)

def scanBasic : List Char → Option (List Char × List Char)
  | [] => none
  | '"' :: rest => some ([], rest)
  | '\\' :: 'u' :: a :: b :: c :: d :: rest => push (coded? [a, b, c, d]) (scanBasic rest)
  | '\\' :: 'U' :: a :: b :: c :: d :: e :: f :: g :: h :: rest =>
      push (coded? [a, b, c, d, e, f, g, h]) (scanBasic rest)
  | '\\' :: c :: rest => push (shortEscapes.lookup c) (scanBasic rest)
  | c :: rest => if isPlain c then push (some c) (scanBasic rest) else none

def scanLiteral : List Char → Option (List Char × List Char)
  | [] => none
  | '\'' :: rest => some ([], rest)
  | c :: rest => if isPlain c then push (some c) (scanLiteral rest) else none

-- Quotes after the three that close a string: up to two of them belong to the string.
def closing (quote : Char) : List Char → List Char × List Char
  | [] => ([], [])
  | [c] => if c = quote then ([c], []) else ([], [c])
  | c :: d :: rest =>
      if c = quote && d = quote then ([c, d], rest)
      else if c = quote then ([c], d :: rest)
      else ([], c :: d :: rest)

def endsLine (cs : List Char) : Bool :=
  match skipBlanks cs with
  | '\n' :: _ | '\r' :: '\n' :: _ => true
  | _ => false

-- A string on several lines with escapes, after its opening quotes. A backslash at the end of a line takes away the
-- white space after it; `folding` is true within that.
def scanBasicLines : (folding : Bool) → List Char → Option (List Char × List Char)
  | _, [] => none
  | true, ' ' :: rest => scanBasicLines true rest
  | true, '\t' :: rest => scanBasicLines true rest
  | true, '\n' :: rest => scanBasicLines true rest
  | true, '\r' :: '\n' :: rest => scanBasicLines true rest
  | _, '"' :: '"' :: '"' :: rest => some (closing '"' rest)
  | _, '\\' :: 'u' :: a :: b :: c :: d :: rest => push (coded? [a, b, c, d]) (scanBasicLines false rest)
  | _, '\\' :: 'U' :: a :: b :: c :: d :: e :: f :: g :: h :: rest =>
      push (coded? [a, b, c, d, e, f, g, h]) (scanBasicLines false rest)
  | _, '\\' :: c :: rest =>
      if endsLine (c :: rest) then scanBasicLines true rest
      else push (shortEscapes.lookup c) (scanBasicLines false rest)
  | _, '\n' :: rest => push (some '\n') (scanBasicLines false rest)
  | _, '\r' :: '\n' :: rest => push (some '\n') (scanBasicLines false rest)
  | _, c :: rest => if isPlain c then push (some c) (scanBasicLines false rest) else none

def scanLiteralLines : List Char → Option (List Char × List Char)
  | [] => none
  | '\'' :: '\'' :: '\'' :: rest => some (closing '\'' rest)
  | '\n' :: rest => push (some '\n') (scanLiteralLines rest)
  | '\r' :: '\n' :: rest => push (some '\n') (scanLiteralLines rest)
  | c :: rest => if isPlain c then push (some c) (scanLiteralLines rest) else none

def dropLineEnd : List Char → List Char
  | '\n' :: rest | '\r' :: '\n' :: rest => rest
  | rest => rest

def scanText : List Char → Option (List Char × List Char)
  | '"' :: '"' :: '"' :: rest => scanBasicLines false (dropLineEnd rest)
  | '"' :: rest => scanBasic rest
  | '\'' :: '\'' :: '\'' :: rest => scanLiteralLines (dropLineEnd rest)
  | '\'' :: rest => scanLiteral rest
  | _ => none

def isBare (c : Char) : Bool :=
  c.isAlphanum || c == '-' || c == '_'

def scanPart : List Char → Option (List Char × List Char)
  | '"' :: rest => scanBasic rest
  | '\'' :: rest => scanLiteral rest
  | cs =>
      match cs.takeWhile isBare with
      | [] => none
      | c :: name => some (c :: name, cs.dropWhile isBare)

def scanParts : (fuel : Nat) → List Char → Option (List String × List Char)
  | 0, _ => none
  | fuel + 1, cs =>
      match scanPart (skipBlanks cs) with
      | none => none
      | some (name, rest) =>
          match skipBlanks rest with
          | '.' :: rest => (scanParts fuel rest).map fun (names, rest) => (String.ofList name :: names, rest)
          | rest => some ([String.ofList name], rest)

-- A key has fewer parts than this, and brackets nest less deeply.
def limit : Nat :=
  80

def scanKey (cs : List Char) : Option (Key × List Char) :=
  match scanParts (cs.length + 1) cs with
  | none => none
  | some (names, rest) =>
      match names.getLast? with
      | none => none
      | some name => if names.length < limit then some (⟨names.dropLast, name⟩, rest) else none

end SqlFilter.Toml
