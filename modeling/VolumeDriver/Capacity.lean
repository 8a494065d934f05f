import VolumeDriver.Volume

/-!
# Size bounds of a volume from a requested range of bytes

A range asks for at least `requiredBytes` and, unless it is zero, at most `limitBytes`. Volumes come in whole GiB, so the
minimum is rounded up and the maximum down.
-/

namespace VolumeDriver

/-- A requested range of bytes, as an orchestrator sends it: either bound may be zero or, in a malformed request, negative. -/
structure CapacityRange where
  requiredBytes : Int64
  limitBytes : Int64
  deriving DecidableEq, Repr

namespace CapacityRange

/-- The size in GiB of a volume no size is required of. -/
def defaultSize : UInt64 := 10

/-- The size in GiB of the smallest volume the provider makes. -/
def smallestSize : UInt64 := 10

/-- A count of bytes that is not negative. -/
def bytes? (n : Int64) : Option UInt64 := if n < 0 then none else some n.toUInt64

/-- The bounds in GiB of a range: the minimum, rounded up and at least the smallest size, and the maximum, rounded down, where
zero is no bound. A negative range and one that no size satisfies have none. -/
def sizeBounds : Option CapacityRange → Option (UInt64 × UInt64)
  | none => some (defaultSize, 0)
  | some range => do
    let required ← bytes? range.requiredBytes
    let limit ← bytes? range.limitBytes
    let least := if required = 0 then defaultSize else max ((required + gib - 1) / gib) smallestSize
    let most := limit / gib
    if most ≠ 0 ∧ most < least then none else some (least, most)

end CapacityRange

end VolumeDriver
