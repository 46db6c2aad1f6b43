import SqlPipe.Text.Printable

/-!
# Quoted text for messages

A text shown inside a message stands between double quotes, with a backslash before a quote or a
backslash, short escapes for the common controls, and the code point in hexadecimal for everything
that has no printed form of its own.
-/

namespace SqlPipe.Text

def hexDigits (code : Nat) : List Char :=
  Nat.toDigits 16 code

def quotedChar (c : Char) : List Char :=
  if c == '\x00' then ['\\', '0']
  else if c == '\t' then ['\\', 't']
  else if c == '\r' then ['\\', 'r']
  else if c == '\n' then ['\\', 'n']
  else if c == '\\' then ['\\', '\\']
  else if c == '\x22' then ['\\', '\x22']
  else if isPrintable c && !isGraphemeExtend c then [c]
  else ['\\', 'u', '\x7b'] ++ hexDigits c.toNat ++ ['\x7d']

/-- A text between double quotes, with what would not read plainly escaped. -/
def quoted (text : String) : String :=
  String.ofList ('\x22' :: text.toList.flatMap quotedChar ++ ['\x22'])

end SqlPipe.Text
