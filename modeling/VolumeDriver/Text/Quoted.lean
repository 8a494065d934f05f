import VolumeDriver.Text.Unprintable

/-!
# Quoted text

A text is quoted between double quotes. A quote, a backslash, tab, line feed, carriage return and NUL are escaped with a
backslash; any other character without a shape of its own is written by its code in hexadecimal.
-/

namespace VolumeDriver.Text

/-- Whether quoted text shows a character as itself. -/
def isShown (c : Char) : Bool :=
  if c.toNat < 0x7F then 0x20 ≤ c.toNat
  else !(Unprintable.ranges.any fun r => r.1 ≤ c.toNat && c.toNat ≤ r.2)

/-- The code of a character in lower-case hexadecimal digits, between braces. -/
def escapeCode (c : Char) : List Char := ['\\', 'u', '\x7b'] ++ Nat.toDigits 16 c.toNat ++ ['\x7d']

def escape (c : Char) : List Char :=
  if c = '\x00' then ['\\', '0']
  else if c = '\t' then ['\\', 't']
  else if c = '\n' then ['\\', 'n']
  else if c = '\r' then ['\\', 'r']
  else if c = '"' then ['\\', '"']
  else if c = '\\' then ['\\', '\\']
  else if isShown c then [c]
  else escapeCode c

/-- A text between double quotes. -/
def quote (s : String) : String := String.ofList ('"' :: s.toList.flatMap escape ++ ['"'])

end VolumeDriver.Text
