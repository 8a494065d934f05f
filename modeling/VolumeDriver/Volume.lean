import VolumeDriver.SortedMap
import VolumeDriver.Text.Decimal

/-!
# Volumes, servers and what can go wrong with them

A volume is a block device of a provider, of a whole number of GiB at a location, attached to at most one server. Sizes and
identifiers are words of 64 bits, as they travel to the provider.
-/

namespace VolumeDriver

/-- String maps: labels, parameters, contexts, topology segments. -/
abbrev StringMap := SortedMap String String

/-- The bytes of one GiB. -/
def gib : UInt64 := 1024 * 1024 * 1024

/-- The identifier the provider gave a volume. Its decimal form is the volume's name to an orchestrator. -/
structure VolumeId where
  val : UInt64
  deriving DecidableEq, Repr, Inhabited

namespace VolumeId

instance : LT VolumeId := ⟨fun a b => a.val < b.val⟩
instance : LE VolumeId := ⟨fun a b => a.val ≤ b.val⟩
instance : DecidableLT VolumeId := fun a b => inferInstanceAs (Decidable (a.val < b.val))

instance : Std.LawfulOrderLT VolumeId where
  lt_iff a b := Std.LawfulOrderLT.lt_iff a.val b.val

instance : Std.IsLinearOrder VolumeId where
  le_refl a := Std.le_refl a.val
  le_trans _ _ _ := Std.le_trans (α := UInt64)
  le_antisymm a b h h' := by cases a; cases b; exact congrArg _ (Std.le_antisymm h h')
  le_total a b := Std.le_total (a := a.val) (b := b.val)

instance : ToString VolumeId := ⟨fun id => toString id.val⟩

/-- Reads an identifier from its decimal form. -/
def ofString (s : String) : Except Text.NumberError VolumeId := VolumeId.mk <$> Text.readUInt64 s

end VolumeId

/-- A server a volume can be attached to. Its decimal form is the node's name to an orchestrator. -/
structure ServerId where
  val : UInt64
  deriving DecidableEq, Repr, Inhabited

namespace ServerId

instance : ToString ServerId := ⟨fun id => toString id.val⟩

/-- Reads an identifier from its decimal form. -/
def ofString (s : String) : Except Text.NumberError ServerId := ServerId.mk <$> Text.readUInt64 s

end ServerId

/-- A volume as the provider reports it. The device path is empty while the volume is detached. -/
structure Volume where
  id : VolumeId
  name : String
  sizeGib : UInt64
  location : String
  linuxDevice : String
  attachedServer : Option ServerId
  deriving DecidableEq, Repr, Inhabited

/-- The size in bytes, as a word of 64 bits. -/
def Volume.sizeBytes (v : Volume) : UInt64 := v.sizeGib * gib

/-- What a new volume is asked to be. A maximum of zero is no bound. -/
structure CreateOptions where
  name : String
  minSizeGib : UInt64
  maxSizeGib : UInt64
  location : String
  labels : StringMap
  deriving DecidableEq

/-- Whether a volume that already has the requested name will do. -/
def CreateOptions.accepts (o : CreateOptions) (existing : Volume) : Bool :=
  o.minSizeGib ≤ existing.sizeGib && (o.maxSizeGib = 0 || existing.sizeGib ≤ o.maxSizeGib) &&
    existing.location = o.location

/-- Why the provider did not do what it was asked. -/
inductive VolumeError where
  | volumeNotFound
  | volumeAlreadyExists
  | serverNotFound
  | attached
  | notAttached
  | attachLimitReached
  | lockedServer
  | volumeSizeAlreadyReached
  | other (message : String)
  deriving DecidableEq, Repr

def VolumeError.message : VolumeError → String
  | .volumeNotFound => "volume not found"
  | .volumeAlreadyExists => "volume already exists"
  | .serverNotFound => "server not found"
  | .attached => "volume is attached"
  | .notAttached => "volume is not attached"
  | .attachLimitReached => "max number of attachments per server reached"
  | .lockedServer => "server is locked"
  | .volumeSizeAlreadyReached => "volume size is already larger or equal than the requested size"
  | .other m => m

end VolumeDriver
