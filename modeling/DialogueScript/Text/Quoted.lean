import DialogueScript.Unicode.Unprintable

/-!
# Quoted texts in messages

Messages show a text in double quotes. Quotes and backslashes are escaped, the usual controls have short escapes, and
every other character without a shape of its own is spelled out by its code point in curly brackets.
-/

namespace DialogueScript

/-- A character inside a quoted text. -/
def quoteChar (c : Char) : List Char :=
  if c = '"' then ['\\', '"']
  else if c = '\\' then ['\\', '\\']
  else if c = '\n' then ['\\', 'n']
  else if c = '\r' then ['\\', 'r']
  else if c = '\t' then ['\\', 't']
  else if c = '\x00' then ['\\', '0']
  else if Unicode.isUnprintable c then ['\\', 'u', '{'] ++ Nat.toDigits 16 c.toNat ++ ['}']
  else [c]

/-- A text in quotes. -/
def quote (s : String) : String := String.ofList (['"'] ++ s.toList.flatMap quoteChar ++ ['"'])

end DialogueScript
