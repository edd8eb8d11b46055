import Tenancy.Text.PrintTable

/-!
# Quoted text in messages

Text shown in a message stands between double quotes. Quotes, backslashes and the four control
characters with a letter of their own are escaped; every other character that has no visible form,
or that would join the character before it, is shown by its code point.
-/

namespace Tenancy.Text

/-- Whether a character is shown by its code point. -/
def isHidden (c : Char) : Bool :=
  extendIntervals.contains c.toNat || unprintableIntervals.contains c.toNat

/-- A character as it stands between the quotes. -/
def quotedChar (c : Char) : List Char :=
  if c = '\x00' then ['\\', '0']
  else if c = '\t' then ['\\', 't']
  else if c = '\r' then ['\\', 'r']
  else if c = '\n' then ['\\', 'n']
  else if c = '\\' then ['\\', '\\']
  else if c = '"' then ['\\', '"']
  else if isHidden c then ['\\', 'u', '{'] ++ Nat.toDigits 16 c.toNat ++ ['}']
  else [c]

/-- A string between double quotes. -/
def quoted (s : String) : String :=
  String.ofList ('"' :: s.toList.flatMap quotedChar ++ ['"'])

end Tenancy.Text
