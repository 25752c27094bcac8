import StepMeters.Text.Graphic
import StepMeters.Text.GraphemeExtend

/-!
# Quoted text

A quoted text can be read on one line and leaves no doubt about its characters: a quote and a backslash
follow a backslash, the usual controls have letters, and whatever cannot be seen, or would join the
character before it, is written by its number.
-/

namespace StepMeters.Text

/-- The number of a character in lower case hexadecimal digits between braces, as in `\u{301}`. -/
def numbered (c : Char) : List Char :=
  ['\\', 'u', '\x7b'] ++ Nat.toDigits 16 c.toNat ++ ['\x7d']

/-- How a character stands inside quotes. -/
def escaped (c : Char) : List Char :=
  if c = '\x00' then ['\\', '0']
  else if c = '\t' then ['\\', 't']
  else if c = '\n' then ['\\', 'n']
  else if c = '\r' then ['\\', 'r']
  else if c = '"' then ['\\', '"']
  else if c = '\\' then ['\\', '\\']
  else if extendsGrapheme c || !isGraphic c then numbered c
  else [c]

/-- The text between quotes, with every character in its escaped form. -/
def quote (s : String) : String :=
  String.ofList ('"' :: s.toList.flatMap escaped ++ ['"'])

end StepMeters.Text
