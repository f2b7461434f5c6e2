import HostedScripts.Text.Codec
import HostedScripts.Text.Printable

/-!
# Quoted texts and characters

The form of a text that shows every character: quotes and backslashes are escaped, the usual control
characters have their letters, and a character that cannot be seen is written by its number.
-/

namespace HostedScripts.Text

/-- A character by its number. -/
def escapedByNumber (c : Char) : List Char :=
  '\\' :: 'u' :: '\x7b' :: hexNumeral c.toNat ++ ['\x7d']

/-- A character inside quotes of the given kind. -/
def escaped (mark : Char) (c : Char) : List Char :=
  if c == '\x00' then ['\\', '0']
  else if c == '\t' then ['\\', 't']
  else if c == '\n' then ['\\', 'n']
  else if c == '\r' then ['\\', 'r']
  else if c == '\\' || c == mark then ['\\', c]
  else if isExtending c || !isPrintable c then escapedByNumber c
  else [c]

/-- A text in double quotes. -/
def quoted (s : String) : String :=
  String.ofList ('"' :: s.toList.flatMap (escaped '"') ++ ['"'])

/-- A character in single quotes. -/
def quotedChar (c : Char) : String := String.ofList ('\'' :: escaped '\'' c ++ ['\''])

end HostedScripts.Text
