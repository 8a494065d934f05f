/-!
# UTF-8 that may be damaged

Bytes are read as text with the replacement character in the place of each piece that is no character: the longest beginning of
one, or a single byte that begins none.
-/

namespace VolumeDriver.Text

/-- How many bytes a character that begins with a byte has, and what the second byte may be. -/
def leadByte (b : UInt8) : Option (Nat × UInt8 × UInt8) :=
  if b < 0x80 then some (1, 0, 0)
  else if 0xC2 ≤ b ∧ b ≤ 0xDF then some (2, 0x80, 0xBF)
  else if b = 0xE0 then some (3, 0xA0, 0xBF)
  else if b = 0xED then some (3, 0x80, 0x9F)
  else if 0xE1 ≤ b ∧ b ≤ 0xEF then some (3, 0x80, 0xBF)
  else if b = 0xF0 then some (4, 0x90, 0xBF)
  else if 0xF1 ≤ b ∧ b ≤ 0xF3 then some (4, 0x80, 0xBF)
  else if b = 0xF4 then some (4, 0x80, 0x8F)
  else none

/-- The bytes of a character that are still to come. -/
structure Continuation where
  /-- The bits read so far. -/
  code : Nat
  /-- How many bytes are missing, less one. -/
  more : Nat
  least : UInt8
  most : UInt8

def replacement : Char := '\uFFFD'

/-- Reads bytes, within a character or between two. -/
def decodeLossyFrom : Option Continuation → List UInt8 → List Char
  | none, [] => []
  | some _, [] => [replacement]
  | pending, b :: bs =>
    let begin : List Char :=
      match leadByte b with
      | none => replacement :: decodeLossyFrom none bs
      | some (1, _) => Char.ofNat b.toNat :: decodeLossyFrom none bs
      | some (size, least, most) =>
        decodeLossyFrom (some ⟨b.toNat % 2 ^ (7 - size), size - 2, least, most⟩) bs
    match pending with
    | none => begin
    | some p =>
      if p.least ≤ b ∧ b ≤ p.most then
        let code := p.code * 64 + b.toNat % 64
        match p.more with
        | 0 => Char.ofNat code :: decodeLossyFrom none bs
        | more + 1 => decodeLossyFrom (some ⟨code, more, 0x80, 0xBF⟩) bs
      else replacement :: begin

/-- The text of bytes, with what is damaged replaced. -/
def decodeLossy (bytes : ByteArray) : String :=
  match String.fromUTF8? bytes with
  | some s => s
  | none => String.ofList (decodeLossyFrom none bytes.toList)

end VolumeDriver.Text
