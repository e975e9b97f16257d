import ScalarServer.Text.Digits
import ScalarServer.Text.GraphemeExtend
import ScalarServer.Text.Unprintable

/-!
# Quoted text

The form in which messages show a text that someone else wrote: in double quotes, with
backslash escapes for the quote, the backslash and the common controls, and the code point in
hexadecimal for every other character that a reader could not see.
-/

namespace ScalarServer.Text

/-- One character of a quoted text. -/
def quotedChar (c : Char) : List Char :=
  if c = '\x00' then ['\\', '0']
  else if c = '\t' then ['\\', 't']
  else if c = '\r' then ['\\', 'r']
  else if c = '\n' then ['\\', 'n']
  else if c = '\\' then ['\\', '\\']
  else if c = '"' then ['\\', '"']
  -- the tables begin above ASCII
  else if 0x20 ≤ c.toNat ∧ c.toNat < 0x7f then [c]
  else if isGraphemeExtend c || isUnprintable c then
    ['\\', 'u', '\x7b'] ++ hexDigitsOf c.toNat ++ ['\x7d']
  else [c]

/-- A text in double quotes. -/
def quoted (cs : List Char) : List Char :=
  '"' :: (cs.flatMap quotedChar ++ ['"'])

/-- `quoted` of a string. -/
def quote (s : String) : String :=
  .ofList (quoted s.toList)

end ScalarServer.Text
