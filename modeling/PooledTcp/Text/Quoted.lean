import PooledTcp.Text.Visible

/-!
# Quoted text

A text between double quotes in which the quote and the backslash are preceded by a backslash, the
tab, the line feed, the carriage return and NUL have short names, and every other hidden character
is written by its number: `"quo\"te\n"`, `"\u\x7b301\x7d"`.
-/

namespace PooledTcp.Text

/-- How one character is written between the quotes. -/
def escaped (c : Char) : List Char :=
  if c = '"' then ['\\', '"']
  else if c = '\\' then ['\\', '\\']
  else if c = '\t' then ['\\', 't']
  else if c = '\n' then ['\\', 'n']
  else if c = '\r' then ['\\', 'r']
  else if c = '\x00' then ['\\', '0']
  else if isVisible c then [c]
  else ['\\', 'u', '\x7b'] ++ Nat.toDigits 16 c.toNat ++ ['\x7d']

/-- The text between quotes, with escapes. -/
def quoted (s : String) : String :=
  String.ofList ('"' :: (s.toList.flatMap escaped ++ ['"']))

end PooledTcp.Text
