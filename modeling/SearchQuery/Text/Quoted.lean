import SearchQuery.Text.Addition

/-!
# Quoted text

Text in messages and listings is quoted: it stands between double quotes, and every character in
it that would not show (controls, format characters, blanks other than the space, fillers, marks
that would sit on the character before them) is written as an escape.
-/

namespace SearchQuery.Text

/-- The escape by code point: `\u`, then the code point in braces. -/
def codePointEscape (c : Char) : List Char :=
  ['\\', 'u', '\x7b'] ++ hexDigits c.toNat ++ ['\x7d']

/-- How one character is written between the quotes. -/
def quotedChar (c : Char) : List Char :=
  if c = '\x00' then ['\\', '0']
  else if c = '\t' then ['\\', 't']
  else if c = '\r' then ['\\', 'r']
  else if c = '\n' then ['\\', 'n']
  else if c = '\\' then ['\\', '\\']
  else if c = '"' then ['\\', '"']
  else if isVisible c then [c]
  else codePointEscape c

/-- The text between double quotes, with escapes. -/
def quoted (s : String) : String :=
  String.ofList ('"' :: s.toList.flatMap quotedChar ++ ['"'])

end SearchQuery.Text
