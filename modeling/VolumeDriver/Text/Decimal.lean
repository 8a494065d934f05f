/-!
# Decimal numbers within bounds

A number is read from an optional sign and ASCII digits. It is refused at the first character that is no digit, or as soon
as the digits read so far exceed the bound, whichever comes first.
-/

namespace VolumeDriver.Text

/-- Why a text is not read as a number. -/
inductive NumberError where
  | empty
  | invalidDigit
  | tooLarge
  | tooSmall
  deriving DecidableEq, Repr

def NumberError.message : NumberError → String
  | .empty => "cannot parse integer from empty string"
  | .invalidDigit => "invalid digit found in string"
  | .tooLarge => "number too large to fit in target type"
  | .tooSmall => "number too small to fit in target type"

/-- The value of an ASCII digit. -/
def digit? (c : Char) : Option Nat :=
  if '0' ≤ c ∧ c ≤ '9' then some (c.toNat - '0'.toNat) else none

/-- Reads digits onto a number already read. A result above the limit is the error `overflow`. -/
def readDigits (limit : Nat) (overflow : NumberError) (n : Nat) : List Char → Except NumberError Nat
  | [] => .ok n
  | c :: cs =>
    match digit? c with
    | none => .error .invalidDigit
    | some d => if limit < 10 * n + d then .error overflow else readDigits limit overflow (10 * n + d) cs

/-- Reads a number from zero to a limit: digits, with a plus sign before them or none. -/
def readNat (limit : Nat) : List Char → Except NumberError Nat
  | [] => .error .empty
  | ['+'] => .error .invalidDigit
  | '+' :: cs => readDigits limit .tooLarge 0 cs
  | cs => readDigits limit .tooLarge 0 cs

/-- Reads a number from `-(limit + 1)` to a limit: digits, with a sign before them or none. -/
def readInt (limit : Nat) : List Char → Except NumberError Int
  | [] => .error .empty
  | ['+'] => .error .invalidDigit
  | ['-'] => .error .invalidDigit
  | '+' :: cs => Int.ofNat <$> readDigits limit .tooLarge 0 cs
  | '-' :: cs => (fun n => - Int.ofNat n) <$> readDigits (limit + 1) .tooSmall 0 cs
  | cs => Int.ofNat <$> readDigits limit .tooLarge 0 cs

/-- Reads an unsigned number of 64 bits. -/
def readUInt64 (s : String) : Except NumberError UInt64 :=
  (fun n => n.toUInt64) <$> readNat (UInt64.size - 1) s.toList

/-- Reads a signed number of 64 bits. -/
def readInt64 (cs : List Char) : Except NumberError Int64 :=
  (fun n => n.toInt64) <$> readInt (UInt64.size / 2 - 1) cs

end VolumeDriver.Text
