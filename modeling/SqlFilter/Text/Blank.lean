/-!
White space at the ends of a word, and letter case. `isBlank` is the class of characters that Unicode
calls white space; `trim` drops them at both ends and `fold` lowers the letters `A` to `Z` only.
-/

set_option autoImplicit false

namespace SqlFilter.Text

-- The twenty-five characters with the Unicode property White_Space.
def isBlank (c : Char) : Bool :=
  let code := c.toNat
  (9 ≤ code && code ≤ 13) || code == 0x20 || code == 0x85 || code == 0xA0 || code == 0x1680 ||
    (0x2000 ≤ code && code ≤ 0x200A) || code == 0x2028 || code == 0x2029 || code == 0x202F ||
    code == 0x205F || code == 0x3000

def trimChars (cs : List Char) : List Char :=
  ((cs.dropWhile isBlank).reverse.dropWhile isBlank).reverse

def trim (s : String) : String :=
  String.ofList (trimChars s.toList)

def fold (s : String) : String :=
  String.ofList (s.toList.map Char.toLower)

def word (s : String) : String :=
  fold (trim s)

example : word " \u3000LIKE\t" = "like" := by decide +kernel
example : word "\u200blike" ≠ "like" := by decide +kernel

end SqlFilter.Text
