import SqlFilter.Text.Unprintable

/-!
A text as a message quotes it: between double quotes, with a backslash before a quote or a backslash, the short
forms of the common controls, and the code of any other character that cannot be shown.
-/

set_option autoImplicit false

namespace SqlFilter.Text

def quotedChar (c : Char) : List Char :=
  if c = '"' then ['\\', '"']
  else if c = '\\' then ['\\', '\\']
  else if c = '\n' then ['\\', 'n']
  else if c = '\r' then ['\\', 'r']
  else if c = '\t' then ['\\', 't']
  else if c = '\x00' then ['\\', '0']
  else if isUnprintable c then ['\\', 'u', '\x7b'] ++ Nat.toDigits 16 c.toNat ++ ['\x7d']
  else [c]

def quoted (s : String) : String :=
  String.ofList ('"' :: s.toList.flatMap quotedChar ++ ['"'])

end SqlFilter.Text
