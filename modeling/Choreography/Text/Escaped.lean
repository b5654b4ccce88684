import Choreography.Text.Combining
import Choreography.Text.Unprintable

/-!
# Text with invisible characters spelled out

Within double quotes, a character that cannot be seen on its own is spelled as an escape: a letter
behind a backslash for the common ones, else the code point in braces (`\u{200b}`). Quotes and
backslashes are escaped as well, everything visible stands for itself.

Which characters are visible is a parameter, `visible` by default: the spelling can be read back
whatever the choice.
-/

namespace Choreography

namespace Text

/-- The character can be seen on its own. -/
def visible (c : Char) : Bool :=
  if c.toNat < 0x7F then 0x20 ≤ c.toNat else !isUnprintable c && !isCombining c

/-- The code point in lower-case hexadecimal digits. -/
def hex (n : Nat) : List Char :=
  Nat.toDigits 16 n

/-- The spelling of one character. -/
def escapeChar (isVisible : Char → Bool) (c : Char) : List Char :=
  if c = '\x00' then ['\\', '0']
  else if c = '\t' then ['\\', 't']
  else if c = '\r' then ['\\', 'r']
  else if c = '\n' then ['\\', 'n']
  else if c = '"' then ['\\', '"']
  else if c = '\\' then ['\\', '\\']
  else if isVisible c then [c]
  else ['\\', 'u', '\x7b'] ++ hex c.toNat ++ ['\x7d']

/-- A text in double quotes, with its invisible characters spelled out. -/
def shown (s : String) : String :=
  String.ofList ('"' :: s.toList.flatMap (escapeChar visible) ++ ['"'])

end Text

end Choreography
