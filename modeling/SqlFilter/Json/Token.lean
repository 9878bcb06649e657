import SqlFilter.Json.Literal
import SqlFilter.Json.Number

/-!
The tokens of a JSON text. `tokens` cuts a whole text; what cannot be read becomes a last token of its own, so that
the error comes to light only when a reader gets that far.
-/

set_option autoImplicit false

namespace SqlFilter.Json

inductive Token
  | openArray
  | closeArray
  | openObject
  | closeObject
  | comma
  | colon
  | null
  | bool (b : Bool)
  | number (n : Number)
  | string (s : String)
  | brokenString (error : ReadError)
  -- Anything else that cannot be read.
  | broken (error : ReadError)

def isSpace (c : Char) : Bool :=
  c == ' ' || c == '\t' || c == '\n' || c == '\r'

def punctuation : List (Char × Token) :=
  [('[', .openArray), (']', .closeArray), ('{', .openObject), ('}', .closeObject), (',', .comma), (':', .colon)]

def scanWord : List Char → List Char → Except ReadError (List Char)
  | [], cs => .ok cs
  | _ :: _, [] => .error .truncated
  | w :: word, c :: cs => if w = c then scanWord word cs else .error .malformed

def wordToken (word : List Char) (token : Token) (cs : List Char) : Token × List Char :=
  match scanWord word cs with
  | .ok rest => (token, rest)
  | .error e => (.broken e, [])

def stringToken (cs : List Char) : Token × List Char :=
  match scanString cs with
  | .ok (text, rest) => (.string (String.ofList text), rest)
  | .error e => (.brokenString e, [])

def numberToken (cs : List Char) : Token × List Char :=
  match scanNumeral cs with
  | .ok (numeral, rest) =>
      match Number.ofNumeral? numeral with
      | some n => (.number n, rest)
      | none => (.broken .malformed, [])
  | .error e => (.broken e, [])

def firstToken (c : Char) (rest : List Char) : Token × List Char :=
  match punctuation.lookup c with
  | some token => (token, rest)
  | none =>
      if c = '"' then stringToken rest
      else if c = '-' || c.isDigit then numberToken (c :: rest)
      else if c = 'n' then wordToken ['u', 'l', 'l'] .null rest
      else if c = 't' then wordToken ['r', 'u', 'e'] (.bool true) rest
      else if c = 'f' then wordToken ['a', 'l', 's', 'e'] (.bool false) rest
      else (.broken .malformed, [])

theorem scan_word_shorter {word cs rest : List Char} (scanned : scanWord word cs = .ok rest) :
    rest.length ≤ cs.length := by
  induction word generalizing cs with
  | nil =>
      simp only [scanWord, Except.ok.injEq] at scanned
      exact Nat.le_of_eq (congrArg List.length scanned.symm)
  | cons w word shorter =>
      cases cs with
      | nil => cases scanned
      | cons c cs =>
          unfold scanWord at scanned
          split at scanned
          · have restShorter := shorter scanned
            simp only [List.length_cons]
            omega
          · cases scanned

theorem word_token_shorter (word : List Char) (token : Token) (cs : List Char) :
    (wordToken word token cs).2.length ≤ cs.length := by
  unfold wordToken
  split
  · exact scan_word_shorter (by assumption)
  · simp

theorem first_token_shorter (c : Char) (rest : List Char) : (firstToken c rest).2.length ≤ rest.length := by
  unfold firstToken
  split
  · exact Nat.le_refl _
  · repeat' split
    · unfold stringToken
      split
      · exact Nat.le_of_lt (scan_string_shorter (by assumption))
      · simp
    · unfold numberToken
      split
      · rename_i scanned
        have shorter := scan_numeral_shorter scanned
        simp only [List.length_cons] at shorter
        split
        · exact Nat.le_of_lt_succ shorter
        · simp
      · simp
    · exact word_token_shorter _ _ _
    · exact word_token_shorter _ _ _
    · exact word_token_shorter _ _ _
    · simp

def tokens (cs : List Char) : List Token :=
  match cs with
  | [] => []
  | c :: rest =>
      if isSpace c then tokens rest
      else
        let next := firstToken c rest
        next.1 :: tokens next.2
termination_by cs.length
decreasing_by
  · simp
  · have shorter := first_token_shorter c rest
    simp only [List.length_cons]
    omega

end SqlFilter.Json
