import VolumeDriver.Csi.Message

/-!
# Answers of a service, and the messages they become

A service counts bytes in words of 64 bits without a sign; a message holds signed ones. A count that does not fit is an
answer that cannot be given, and the call fails out of range although the service has done its work.
-/

namespace VolumeDriver.Csi

/-- A count of bytes as a message holds it. -/
def wireBytes (n : UInt64) (problem : String) : Except Status Int64 :=
  if 0x7FFFFFFFFFFFFFFF < n then .error (.outOfRange problem) else .ok n.toInt64

/-- A volume as the service describes it. -/
structure VolumeInfo where
  volumeId : String
  capacityBytes : UInt64
  /-- What a node is given back when the volume is published. -/
  volumeContext : StringMap := .empty
  accessibleTopology : List StringMap := []
  deriving DecidableEq

def VolumeInfo.toMessage (v : VolumeInfo) : Except Status Message.Volume := do
  let bytes ← wireBytes v.capacityBytes "Volume.capacity_bytes overflows int64"
  .ok ⟨bytes, v.volumeId, v.volumeContext, false, v.accessibleTopology⟩

/-- A volume with the nodes it is published on. -/
structure ListedVolume where
  volume : VolumeInfo
  publishedNodes : List String := []
  deriving DecidableEq

def ListedVolume.toMessage (v : ListedVolume) : Except Status Message.ListedVolume := do
  let volume ← v.volume.toMessage
  .ok ⟨volume, v.publishedNodes⟩

structure VolumeList where
  entries : List ListedVolume
  nextToken : Option String := none
  deriving DecidableEq

def VolumeList.toMessage (l : VolumeList) : Except Status Message.VolumeList := do
  let entries ← l.entries.mapM ListedVolume.toMessage
  .ok ⟨entries, l.nextToken.getD ""⟩

/-- The outcome of a validation: what was confirmed, which is what was asked, or why nothing was. -/
inductive Validation where
  | confirmed (volumeContext : StringMap) (volumeCapabilities : List VolumeCapability) (parameters : StringMap)
  | notConfirmed (message : String)
  deriving DecidableEq

def Validation.toMessage : Validation → Message.Validation
  | confirmed context capabilities parameters =>
    ⟨some ⟨context, capabilities.map VolumeCapability.toMessage, parameters⟩, ""⟩
  | notConfirmed message => ⟨none, message⟩

structure Expansion where
  capacityBytes : UInt64
  nodeExpansionRequired : Bool
  deriving DecidableEq

def Expansion.toMessage (e : Expansion) : Except Status Message.Expansion := do
  let bytes ← wireBytes e.capacityBytes "capacity_bytes does not fit in an i64"
  .ok ⟨bytes, e.nodeExpansionRequired⟩

/-- The size a node reports after growing a volume; a size that is not known is zero in the message. -/
def nodeExpansionBytes : Option UInt64 → Except Status Int64
  | none => .ok 0
  | some n => wireBytes n "capacity_bytes does not fit in an i64"

inductive UsageUnit where
  | bytes
  | inodes
  deriving DecidableEq, Repr

def UsageUnit.number : UsageUnit → Int32
  | bytes => 1
  | inodes => 2

structure VolumeUsage where
  unit : UsageUnit
  available : UInt64
  total : UInt64
  used : UInt64
  deriving DecidableEq

def VolumeUsage.toMessage (u : VolumeUsage) : Except Status Message.VolumeUsage := do
  let available ← wireBytes u.available "VolumeUsage.available overflows int64"
  let total ← wireBytes u.total "VolumeUsage.total overflows int64"
  let used ← wireBytes u.used "VolumeUsage.used overflows int64"
  .ok ⟨available, total, used, u.unit.number⟩

structure NodeInfo where
  nodeId : String
  /-- Zero leaves the limit to the orchestrator. -/
  maxVolumesPerNode : UInt32 := 0
  accessibleTopology : Option StringMap := none
  deriving DecidableEq

/-- The longest node name that an orchestrator takes, in bytes. -/
def longestNodeId : Nat := 192

def NodeInfo.toMessage (i : NodeInfo) : Except Status Message.NodeInfo :=
  if longestNodeId < i.nodeId.utf8ByteSize then
    .error (.internal "NodeGetInfoResponse.node_id is longer than 192 bytes")
  else .ok ⟨i.nodeId, i.maxVolumesPerNode.toUInt64.toInt64, i.accessibleTopology⟩

/-- Has a service answer a request that was checked, and puts its answer into a message. -/
def respond {m : Type → Type} [Monad m] {ρ α β : Type} (refused : Refusal → Status) (request : Except Status ρ)
    (service : ρ → m (Except Refusal α)) (reply : α → Except Status β) : m (Except Status β) :=
  match request with
  | .error e => pure (.error e)
  | .ok r => do
    match ← service r with
    | .error e => return .error (refused e)
    | .ok a => return reply a

end VolumeDriver.Csi
