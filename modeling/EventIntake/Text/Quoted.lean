import EventIntake.Text.Hidden

/-!
# Quoted text

A text in double quotes, in which a quote and a backslash follow a backslash, a tab, a line feed, a
carriage return and a null have names, and characters that would not be seen are written by their
number in lower-case hexadecimal digits: a backslash, `u` and the digits in braces.
-/

namespace EventIntake.Text

def hexDigits (n : Nat) : List Char := Nat.toDigits 16 n

def quotedChar (c : Char) : List Char :=
  if c = '"' then ['\\', '"']
  else if c = '\\' then ['\\', '\\']
  else if c = '\n' then ['\\', 'n']
  else if c = '\r' then ['\\', 'r']
  else if c = '\t' then ['\\', 't']
  else if c = '\x00' then ['\\', '0']
  else if 0x20 ≤ c.toNat && c.toNat ≤ 0x7E then [c]
  else if isHidden c then ['\\', 'u', '\x7b'] ++ hexDigits c.toNat ++ ['\x7d']
  else [c]

def quotedChars (cs : List Char) : List Char := '"' :: cs.flatMap quotedChar ++ ['"']

def quoted (s : String) : String := String.ofList (quotedChars s.toList)

end EventIntake.Text
