import PodCache.Text.Printable

/-!
# Quoted text

A text between double quotes, so that every character of it can be told apart.
The quote and the backslash take a backslash before them; NUL, tab, line feed
and carriage return have short escapes; any other character that does not show
by itself is written as its code point in braces.
-/

namespace PodCache.Text

/-- The escape of a character by its code point, in lower-case hexadecimal. -/
def codePointEscape (c : Char) : List Char :=
  ['\\', 'u', '\x7b'] ++ Nat.toDigits 16 c.toNat ++ ['\x7d']

/-- A character as it stands between the quotes. -/
def quotedChar (c : Char) : List Char :=
  if c = '"' then ['\\', '"']
  else if c = '\\' then ['\\', '\\']
  else if c = '\n' then ['\\', 'n']
  else if c = '\r' then ['\\', 'r']
  else if c = '\t' then ['\\', 't']
  else if c.toNat = 0 then ['\\', '0']
  else if isPrintable c then [c]
  else codePointEscape c

/-- The text between double quotes, with the characters escaped that need it. -/
def quoted (s : String) : String :=
  String.ofList ('"' :: s.toList.flatMap quotedChar ++ ['"'])

end PodCache.Text
