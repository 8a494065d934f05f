import VolumeDriver.Capacity
import VolumeDriver.Csi.Capability

/-!
# Messages, as they travel

Requests before anything has been checked, and answers after they have been put into the numbers that a message can hold. An
empty text in a request is one that is not set.
-/

namespace VolumeDriver.Csi.Message

structure TopologyRequirement where
  requisite : List StringMap := []
  preferred : List StringMap := []
  deriving DecidableEq

structure CreateVolume where
  name : String := ""
  capacityRange : Option CapacityRange := none
  volumeCapabilities : List VolumeCapability := []
  parameters : StringMap := .empty
  secrets : StringMap := .empty
  /-- A snapshot or volume to copy from. -/
  contentSource : Option String := none
  accessibilityRequirements : Option TopologyRequirement := none
  deriving DecidableEq

structure DeleteVolume where
  volumeId : String := ""
  secrets : StringMap := .empty
  deriving DecidableEq

structure ControllerPublishVolume where
  volumeId : String := ""
  nodeId : String := ""
  volumeCapability : Option VolumeCapability := none
  readonly : Bool := false
  secrets : StringMap := .empty
  volumeContext : StringMap := .empty
  deriving DecidableEq

structure ControllerUnpublishVolume where
  volumeId : String := ""
  nodeId : String := ""
  secrets : StringMap := .empty
  deriving DecidableEq

structure ValidateVolumeCapabilities where
  volumeId : String := ""
  volumeContext : StringMap := .empty
  volumeCapabilities : List VolumeCapability := []
  parameters : StringMap := .empty
  secrets : StringMap := .empty
  deriving DecidableEq

structure ListVolumes where
  maxEntries : Int32 := 0
  startingToken : String := ""
  deriving DecidableEq

structure ControllerExpandVolume where
  volumeId : String := ""
  capacityRange : Option CapacityRange := none
  secrets : StringMap := .empty
  volumeCapability : Option VolumeCapability := none
  deriving DecidableEq

structure NodePublishVolume where
  volumeId : String := ""
  publishContext : StringMap := .empty
  stagingTargetPath : String := ""
  targetPath : String := ""
  volumeCapability : Option VolumeCapability := none
  readonly : Bool := false
  secrets : StringMap := .empty
  volumeContext : StringMap := .empty
  deriving DecidableEq

structure NodeUnpublishVolume where
  volumeId : String := ""
  targetPath : String := ""
  deriving DecidableEq

structure NodeGetVolumeStats where
  volumeId : String := ""
  volumePath : String := ""
  stagingTargetPath : String := ""
  deriving DecidableEq

structure NodeExpandVolume where
  volumeId : String := ""
  volumePath : String := ""
  capacityRange : Option CapacityRange := none
  stagingTargetPath : String := ""
  volumeCapability : Option VolumeCapability := none
  deriving DecidableEq

/-- A volume in an answer. -/
structure Volume where
  capacityBytes : Int64
  volumeId : String
  volumeContext : StringMap
  hasContentSource : Bool
  accessibleTopology : List StringMap
  deriving DecidableEq

structure ListedVolume where
  volume : Volume
  publishedNodeIds : List String
  deriving DecidableEq

structure VolumeList where
  entries : List ListedVolume
  nextToken : String
  deriving DecidableEq

/-- What was confirmed of a volume. -/
structure Confirmed where
  volumeContext : StringMap
  volumeCapabilities : List VolumeCapability
  parameters : StringMap
  deriving DecidableEq

structure Validation where
  confirmed : Option Confirmed
  message : String
  deriving DecidableEq

structure Expansion where
  capacityBytes : Int64
  nodeExpansionRequired : Bool
  deriving DecidableEq

structure VolumeUsage where
  available : Int64
  total : Int64
  used : Int64
  unit : Int32
  deriving DecidableEq

structure NodeInfo where
  nodeId : String
  maxVolumesPerNode : Int64
  accessibleTopology : Option StringMap
  deriving DecidableEq

end VolumeDriver.Csi.Message
