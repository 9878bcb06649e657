import SqlFilter.Json.Basic
import SqlFilter.Text.Hex

/-!
String literals of JSON: `quote` writes one, `scanString` reads the characters after an opening quote.
-/

set_option autoImplicit false

namespace SqlFilter.Json

def escape (c : Char) : List Char :=
  if c = '"' then ['\\', '"']
  else if c = '\\' then ['\\', '\\']
  else if c = '\x08' then ['\\', 'b']
  else if c = '\x0c' then ['\\', 'f']
  else if c = '\n' then ['\\', 'n']
  else if c = '\r' then ['\\', 'r']
  else if c = '\t' then ['\\', 't']
  else if c.toNat < 32 then ['\\', 'u', '0', '0', Nat.digitChar (c.toNat / 16), Nat.digitChar (c.toNat % 16)]
  else [c]

def quote (s : String) : String :=
  String.ofList ('"' :: s.toList.flatMap escape ++ ['"'])

-- Four hexadecimal digits at the front of a text. A text of fewer than four bytes ends too early, whatever is in it.
def scanCode (cs : List Char) : Except ReadError (Nat × List Char) :=
  match cs with
  | a :: b :: c :: d :: rest =>
      match Text.hexNumber? [a, b, c, d] with
      | some code => .ok (code, rest)
      | none => .error .malformed
  | short => .error (if (String.ofList short).utf8ByteSize < 4 then .truncated else .malformed)

-- The escape of a trailing surrogate, of which only the backslash may already be missing.
def scanTrail : List Char → Except ReadError (Nat × List Char)
  | [] => .error .truncated
  | [c] => .error (if c = '\\' then .truncated else .malformed)
  | c :: u :: rest =>
      if c ≠ '\\' || u ≠ 'u' then .error .malformed
      else match scanCode rest with
        | .error e => .error e
        | .ok (code, rest) => if code < 0xDC00 || 0xDFFF < code then .error .malformed else .ok (code, rest)

-- The character that an escape with a code stands for: a leading surrogate needs a trailing one after it.
def scanUnicode (cs : List Char) : Except ReadError (Char × List Char) :=
  match scanCode cs with
  | .error e => .error e
  | .ok (code, rest) =>
      if code < 0xD800 || 0xDFFF < code then .ok (Char.ofNat code, rest)
      else if 0xDC00 ≤ code then .error .malformed
      else match scanTrail rest with
        | .error e => .error e
        | .ok (trail, rest) => .ok (Char.ofNat ((code - 0xD800) * 0x400 + (trail - 0xDC00) + 0x10000), rest)

def shortEscapes : List (Char × Char) :=
  [('"', '"'), ('\\', '\\'), ('/', '/'), ('b', '\x08'), ('f', '\x0c'), ('n', '\n'), ('r', '\r'), ('t', '\t')]

def scanEscape : List Char → Except ReadError (Char × List Char)
  | [] => .error .truncated
  | c :: rest =>
      if c = 'u' then scanUnicode rest
      else match shortEscapes.lookup c with
        | some decoded => .ok (decoded, rest)
        | none => .error .malformed

theorem scan_code_shorter {cs rest : List Char} {code : Nat} (scanned : scanCode cs = .ok (code, rest)) :
    rest.length < cs.length := by
  unfold scanCode at scanned
  split at scanned
  · split at scanned
    · simp only [Except.ok.injEq, Prod.mk.injEq] at scanned
      simp only [List.length_cons, ← scanned.2]
      omega
    · cases scanned
  · cases scanned

theorem scan_trail_shorter {cs rest : List Char} {code : Nat} (scanned : scanTrail cs = .ok (code, rest)) :
    rest.length < cs.length := by
  unfold scanTrail at scanned
  split at scanned
  · cases scanned
  · cases scanned
  · split at scanned
    · cases scanned
    · split at scanned
      · cases scanned
      · rename_i found
        have shorter := scan_code_shorter found
        split at scanned
        · cases scanned
        · simp only [Except.ok.injEq, Prod.mk.injEq] at scanned
          simp only [List.length_cons, ← scanned.2]
          omega

theorem scan_unicode_shorter {cs rest : List Char} {c : Char} (scanned : scanUnicode cs = .ok (c, rest)) :
    rest.length < cs.length := by
  unfold scanUnicode at scanned
  split at scanned
  · cases scanned
  · rename_i lead
    have leadShorter := scan_code_shorter lead
    split at scanned
    · simp only [Except.ok.injEq, Prod.mk.injEq] at scanned
      simpa only [← scanned.2] using leadShorter
    · split at scanned
      · cases scanned
      · split at scanned
        · cases scanned
        · rename_i trail
          have trailShorter := scan_trail_shorter trail
          simp only [Except.ok.injEq, Prod.mk.injEq] at scanned
          simp only [← scanned.2]
          omega

theorem scan_escape_shorter {cs rest : List Char} {c : Char} (scanned : scanEscape cs = .ok (c, rest)) :
    rest.length < cs.length := by
  unfold scanEscape at scanned
  split at scanned
  · cases scanned
  · split at scanned
    · have shorter := scan_unicode_shorter scanned
      simp only [List.length_cons]
      omega
    · split at scanned
      · simp only [Except.ok.injEq, Prod.mk.injEq] at scanned
        simp [← scanned.2]
      · cases scanned

def scanString (cs : List Char) : Except ReadError (List Char × List Char) :=
  match cs with
  | [] => .error .truncated
  | c :: rest =>
      if c = '"' then .ok ([], rest)
      else if c = '\\' then
        match _escaped : scanEscape rest with
        | .error e => .error e
        | .ok (decoded, after) =>
            match scanString after with
            | .error e => .error e
            | .ok (text, after) => .ok (decoded :: text, after)
      else if c.toNat < 32 then .error .malformed
      else
        match scanString rest with
        | .error e => .error e
        | .ok (text, after) => .ok (c :: text, after)
termination_by cs.length
decreasing_by
  · have shorter := scan_escape_shorter _escaped
    simp only [List.length_cons]
    omega
  · simp only [List.length_cons]
    omega

theorem scan_string_shorter {cs text rest : List Char} (scanned : scanString cs = .ok (text, rest)) :
    rest.length < cs.length := by
  fun_induction scanString cs generalizing text rest with
  | case1 | case3 | case4 | case6 | case7 => cases scanned
  | case2 => cases scanned; simp
  | case5 tail decoded after escaped following last read notQuote shorter =>
      cases scanned
      have escapeShorter := scan_escape_shorter escaped
      have restShorter := shorter read
      simp only [List.length_cons]
      omega
  | case8 c tail notQuote notBackslash notControl following last read shorter =>
      cases scanned
      have restShorter := shorter read
      simp only [List.length_cons]
      omega

end SqlFilter.Json
