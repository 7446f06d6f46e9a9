import LogGate.Text.Hidden

/-!
# Quoted texts

A text inside a message is quoted so that the message shows where it begins and ends and what it
consists of: between double quotes, with short escapes for the quote, the backslash, NUL, tab, line
feed and carriage return, and with the code point in braces for every other character that is not
shown as itself.
-/

namespace LogGate.Text

/-- How a character is written between quotes. -/
def quotedChar (c : Char) : List Char :=
  if c = '\x00' then ['\\', '0']
  else if c = '\t' then ['\\', 't']
  else if c = '\n' then ['\\', 'n']
  else if c = '\r' then ['\\', 'r']
  else if c = '"' then ['\\', '"']
  else if c = '\\' then ['\\', '\\']
  else if isHidden c then
    ['\\', 'u', '\x7b'] ++ Nat.toDigits 16 c.toNat ++ ['\x7d']
  else [c]

/-- A text between double quotes, with its characters escaped where they need it. -/
def quote (s : String) : String :=
  String.ofList ('"' :: s.toList.flatMap quotedChar ++ ['"'])

end LogGate.Text
