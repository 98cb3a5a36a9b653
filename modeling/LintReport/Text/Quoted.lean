import LintReport.Text.Printable

/-!
# Strings quoted for messages

A string is shown between quotes with its quotes, backslashes and hidden characters escaped, so
that a message stays readable whatever the string holds.
-/

namespace LintReport.Quoted

/-- A code point in braces, in lower-case hexadecimal. -/
def codePoint (c : Char) : List Char :=
  '\\' :: 'u' :: '{' :: Nat.toDigits 16 c.toNat ++ ['}']

/-- A character as it is shown between quotes. -/
def escape (c : Char) : List Char :=
  if c = '\x00' then ['\\', '0']
  else if c = '\t' then ['\\', 't']
  else if c = '\r' then ['\\', 'r']
  else if c = '\n' then ['\\', 'n']
  else if c = '\\' then ['\\', '\\']
  else if c = '"' then ['\\', '"']
  else if Printable.isExtending c || !Printable.isPrintable c then codePoint c
  else [c]

/-- A string between quotes. -/
def quote (s : String) : String := String.ofList ('"' :: s.toList.flatMap escape ++ ['"'])

end LintReport.Quoted
