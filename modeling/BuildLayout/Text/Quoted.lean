import BuildLayout.Text.Printable

/-! # Quoted text

    A text between double quotes, so that a reader sees where it ends and what is in it: the
    quote and the backslash are escaped, line ends, tabs and the null character have letters,
    and any other character that does not show as itself is written by its number.  A single
    quote stands as it is. -/

namespace BuildLayout.Text

/-- How a character is written between the quotes. -/
def escaped (c : Char) : List Char :=
  if c = '"' then ['\\', '"']
  else if c = '\\' then ['\\', '\\']
  else if c = '\n' then ['\\', 'n']
  else if c = '\r' then ['\\', 'r']
  else if c = '\t' then ['\\', 't']
  else if c.toNat = 0 then ['\\', '0']
  else if isPrintable c then [c]
  else ['\\', 'u', '\x7b'] ++ Nat.toDigits 16 c.toNat ++ ['\x7d']

/-- The text between double quotes. -/
def quoted (s : String) : String := "\"" ++ String.ofList (s.toList.flatMap escaped) ++ "\""

end BuildLayout.Text
