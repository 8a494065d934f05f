import VolumeDriver.Csi.Message

/-!
# Requests that have been checked

Each kind of message becomes a request, or is refused as invalid with the field that is at fault. Of several faults the one
of the field checked first is told; the order of the checks is that of the lines below. An empty text becomes an unset
field, lists keep their order, and capacity ranges are passed on as they are.
-/

namespace VolumeDriver.Csi

/-- The secrets of a request. A trace shows their keys alone. -/
structure Secrets where
  entries : StringMap
  deriving DecidableEq

def Secrets.trace (s : Secrets) : String :=
  "\x7b" ++ Text.joinWith ", " (s.entries.keys.map fun k => Text.quote k ++ ": " ++ Trace.redacted) ++ "\x7d"

/-- Where a new volume must, or should, be reachable from; preferred places come with the most preferred first. -/
structure TopologyRequirement where
  requisite : List StringMap
  preferred : List StringMap
  deriving DecidableEq

namespace Request

/-! ### Checks of single fields -/

/-- A text that must not be empty. -/
def require (value problem : String) : Except Status String :=
  if value.isEmpty then .error (.invalidArgument problem) else .ok value

/-- A text that is not set when it is empty. -/
def optional (value : String) : Option String := if value.isEmpty then none else some value

/-- A path that must be set and absolute. -/
def requireAbsolute (value empty relative : String) : Except Status Path := do
  let value ← require value empty
  if Path.isAbsolute ⟨value⟩ then .ok ⟨value⟩ else .error (.invalidArgument relative)

/-- A path that is not set or absolute. -/
def optionalAbsolute (value relative : String) : Except Status (Option Path) :=
  match optional value with
  | none => .ok none
  | some value => if Path.isAbsolute ⟨value⟩ then .ok (some ⟨value⟩) else .error (.invalidArgument relative)

/-- A capability that must be there. -/
def requireCapability (value : Option Message.VolumeCapability) (problem : String) : Except Status VolumeCapability :=
  match value with
  | none => .error (.invalidArgument problem)
  | some c => VolumeCapability.ofMessage c

/-- A capability that may be there. -/
def optionalCapability : Option Message.VolumeCapability → Except Status (Option VolumeCapability)
  | none => .ok none
  | some c => some <$> VolumeCapability.ofMessage c

/-- All capabilities of a list, up to the first that is at fault. -/
def capabilities : List Message.VolumeCapability → Except Status (List VolumeCapability)
  | [] => .ok []
  | c :: cs => do
    let c ← VolumeCapability.ofMessage c
    let cs ← capabilities cs
    .ok (c :: cs)

/-! ### Requests to the controller -/

structure CreateVolume where
  /-- The name by which a repeated request is known. -/
  name : String
  capacityRange : Option CapacityRange
  volumeCapabilities : List VolumeCapability
  parameters : StringMap
  secrets : Secrets
  accessibilityRequirements : Option TopologyRequirement
  deriving DecidableEq

def CreateVolume.ofMessage (m : Message.CreateVolume) : Except Status CreateVolume := do
  let name ← require m.name "CreateVolumeRequest.name is empty"
  if m.volumeCapabilities.isEmpty then
    .error (.invalidArgument "CreateVolumeRequest.volume_capabilities is empty")
  else if m.contentSource.isSome then
    .error (.invalidArgument "CreateVolumeRequest.volume_content_source is not supported")
  else
    let cs ← capabilities m.volumeCapabilities
    .ok ⟨name, m.capacityRange, cs, m.parameters, ⟨m.secrets⟩,
      m.accessibilityRequirements.map fun t => ⟨t.requisite, t.preferred⟩⟩

structure DeleteVolume where
  volumeId : String
  secrets : Secrets
  deriving DecidableEq

def DeleteVolume.ofMessage (m : Message.DeleteVolume) : Except Status DeleteVolume := do
  let volumeId ← require m.volumeId "DeleteVolumeRequest.volume_id is empty"
  .ok ⟨volumeId, ⟨m.secrets⟩⟩

structure ControllerPublishVolume where
  volumeId : String
  nodeId : String
  volumeCapability : VolumeCapability
  readonly : Bool
  secrets : Secrets
  volumeContext : StringMap
  deriving DecidableEq

def ControllerPublishVolume.ofMessage (m : Message.ControllerPublishVolume) : Except Status ControllerPublishVolume := do
  let volumeId ← require m.volumeId "ControllerPublishVolumeRequest.volume_id is empty"
  let nodeId ← require m.nodeId "ControllerPublishVolumeRequest.node_id is empty"
  let c ← requireCapability m.volumeCapability "ControllerPublishVolumeRequest.volume_capability missing"
  .ok ⟨volumeId, nodeId, c, m.readonly, ⟨m.secrets⟩, m.volumeContext⟩

structure ControllerUnpublishVolume where
  volumeId : String
  /-- Without a node the volume is unpublished from every one. -/
  nodeId : Option String
  secrets : Secrets
  deriving DecidableEq

def ControllerUnpublishVolume.ofMessage (m : Message.ControllerUnpublishVolume) :
    Except Status ControllerUnpublishVolume := do
  let volumeId ← require m.volumeId "ControllerUnpublishVolumeRequest.volume_id is empty"
  .ok ⟨volumeId, optional m.nodeId, ⟨m.secrets⟩⟩

structure ValidateVolumeCapabilities where
  volumeId : String
  volumeContext : StringMap
  volumeCapabilities : List VolumeCapability
  parameters : StringMap
  secrets : Secrets
  deriving DecidableEq

def ValidateVolumeCapabilities.ofMessage (m : Message.ValidateVolumeCapabilities) :
    Except Status ValidateVolumeCapabilities := do
  let volumeId ← require m.volumeId "ValidateVolumeCapabilitiesRequest.volume_id is empty"
  if m.volumeCapabilities.isEmpty then
    .error (.invalidArgument "ValidateVolumeCapabilitiesRequest.volume_capabilities is empty")
  else
    let cs ← capabilities m.volumeCapabilities
    .ok ⟨volumeId, m.volumeContext, cs, m.parameters, ⟨m.secrets⟩⟩

structure ListVolumes where
  /-- Zero is no limit. -/
  maxEntries : UInt32
  startingToken : Option String
  deriving DecidableEq

def ListVolumes.ofMessage (m : Message.ListVolumes) : Except Status ListVolumes :=
  if m.maxEntries < 0 then .error (.invalidArgument "ListVolumesRequest.max_entries is negative")
  else .ok ⟨m.maxEntries.toUInt32, optional m.startingToken⟩

structure ControllerExpandVolume where
  volumeId : String
  capacityRange : Option CapacityRange
  secrets : Secrets
  volumeCapability : Option VolumeCapability
  deriving DecidableEq

def ControllerExpandVolume.ofMessage (m : Message.ControllerExpandVolume) : Except Status ControllerExpandVolume := do
  let volumeId ← require m.volumeId "ControllerExpandVolumeRequest.volume_id is empty"
  let c ← optionalCapability m.volumeCapability
  .ok ⟨volumeId, m.capacityRange, ⟨m.secrets⟩, c⟩

/-! ### Requests to a node -/

structure NodePublishVolume where
  volumeId : String
  publishContext : StringMap
  stagingTargetPath : Option Path
  /-- Where the volume is to appear: a file for a block volume, a directory for a mounted one. -/
  targetPath : Path
  volumeCapability : VolumeCapability
  readonly : Bool
  secrets : Secrets
  volumeContext : StringMap
  deriving DecidableEq

def NodePublishVolume.ofMessage (m : Message.NodePublishVolume) : Except Status NodePublishVolume := do
  let volumeId ← require m.volumeId "NodePublishVolumeRequest.volume_id is empty"
  let target ← requireAbsolute m.targetPath "NodePublishVolumeRequest.target_path is empty"
    "NodePublishVolumeRequest.target_path is not absolute"
  let staging ← optionalAbsolute m.stagingTargetPath "NodePublishVolumeRequest.staging_target_path is not absolute"
  let c ← requireCapability m.volumeCapability "NodePublishVolumeRequest.volume_capability missing"
  .ok ⟨volumeId, m.publishContext, staging, target, c, m.readonly, ⟨m.secrets⟩, m.volumeContext⟩

structure NodeUnpublishVolume where
  volumeId : String
  targetPath : Path
  deriving DecidableEq

def NodeUnpublishVolume.ofMessage (m : Message.NodeUnpublishVolume) : Except Status NodeUnpublishVolume := do
  let volumeId ← require m.volumeId "NodeUnpublishVolumeRequest.volume_id is empty"
  let target ← requireAbsolute m.targetPath "NodeUnpublishVolumeRequest.target_path is empty"
    "NodeUnpublishVolumeRequest.target_path is not absolute"
  .ok ⟨volumeId, target⟩

structure NodeGetVolumeStats where
  volumeId : String
  volumePath : Path
  stagingTargetPath : Option Path
  deriving DecidableEq

def NodeGetVolumeStats.ofMessage (m : Message.NodeGetVolumeStats) : Except Status NodeGetVolumeStats := do
  let volumeId ← require m.volumeId "NodeGetVolumeStatsRequest.volume_id is empty"
  let path ← requireAbsolute m.volumePath "NodeGetVolumeStatsRequest.volume_path is empty"
    "NodeGetVolumeStatsRequest.volume_path is not absolute"
  let staging ← optionalAbsolute m.stagingTargetPath "NodeGetVolumeStatsRequest.staging_target_path is not absolute"
  .ok ⟨volumeId, path, staging⟩

structure NodeExpandVolume where
  volumeId : String
  volumePath : Path
  capacityRange : Option CapacityRange
  stagingTargetPath : Option Path
  volumeCapability : Option VolumeCapability
  deriving DecidableEq

def NodeExpandVolume.ofMessage (m : Message.NodeExpandVolume) : Except Status NodeExpandVolume := do
  let volumeId ← require m.volumeId "NodeExpandVolumeRequest.volume_id is empty"
  let path ← requireAbsolute m.volumePath "NodeExpandVolumeRequest.volume_path is empty"
    "NodeExpandVolumeRequest.volume_path is not absolute"
  let staging ← optionalAbsolute m.stagingTargetPath "NodeExpandVolumeRequest.staging_target_path is not absolute"
  let c ← optionalCapability m.volumeCapability
  .ok ⟨volumeId, path, m.capacityRange, staging, c⟩

end Request

end VolumeDriver.Csi
