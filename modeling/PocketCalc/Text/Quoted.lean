import PocketCalc.Text.Upper

/-!
# Quoted texts

The form in which the log shows a text: between double quotes, with a double quote or a
backslash inside escaped by a backslash, the usual letters for NUL, tab, line feed and carriage
return, and every other control character of ASCII by its code in hexadecimal. An apostrophe
stands as it is, and so does every scalar beyond ASCII.
-/

namespace PocketCalc.Text

/-- One scalar between the quotes. -/
def quotedChar (c : Char) : Text :=
  if c = '"' then ['\\', '"']
  else if c = '\\' then ['\\', '\\']
  else if c = '\x00' then ['\\', '0']
  else if c = '\t' then ['\\', 't']
  else if c = '\n' then ['\\', 'n']
  else if c = '\r' then ['\\', 'r']
  else if c.toNat < 0x20 ∨ c.toNat = 0x7F then
    "\\u\x7b".toList ++ Nat.toDigits 16 c.toNat ++ "\x7d".toList
  else [c]

/-- A text between quotes. -/
def quoted (text : Text) : Text := '"' :: text.flatMap quotedChar ++ ['"']

/-- Quoted texts between brackets, with a comma and a space between each two. -/
def quotedList (texts : List Text) : Text :=
  '[' :: ", ".toList.intercalate (texts.map quoted) ++ [']']

end PocketCalc.Text
