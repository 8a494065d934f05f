import VolumeDriver.Csi.Feature
import VolumeDriver.Csi.Request
import VolumeDriver.Csi.Response

/-!
# A node's half of a plugin

A service that runs on every host and makes volumes appear there. A volume is published straight from its device to its
target path, so there is no staging. `NodeService.serve` checks the request, has the service answer it, and puts the answer into
a message.
-/

namespace VolumeDriver.Csi

/-- A service of a node. -/
structure NodeService (m : Type → Type) [Pure m] where
  features : NodeFeatures := .empty
  /-- Makes a volume appear at its target path, where it may be already. -/
  nodePublishVolume : Request.NodePublishVolume → m (Except Refusal Unit)
  /-- Undoes it. A target path that is gone is a success. -/
  nodeUnpublishVolume : Request.NodeUnpublishVolume → m (Except Refusal Unit)
  nodeGetVolumeStats : Request.NodeGetVolumeStats → m (Except Refusal (List VolumeUsage)) :=
    fun _ => pure (.error (.unsupported "NodeGetVolumeStats"))
  nodeExpandVolume : Request.NodeExpandVolume → m (Except Refusal (Option UInt64)) :=
    fun _ => pure (.error (.unsupported "NodeExpandVolume"))
  nodeGetInfo : m (Except Status NodeInfo)

/-- The calls of a node's service. -/
inductive NodeCall where
  | nodePublishVolume (message : Message.NodePublishVolume)
  | nodeUnpublishVolume (message : Message.NodeUnpublishVolume)
  | nodeGetVolumeStats (message : Message.NodeGetVolumeStats)
  | nodeExpandVolume (message : Message.NodeExpandVolume)
  | nodeGetCapabilities
  | nodeGetInfo
  /-- Methods that no service offers. -/
  | nodeStageVolume | nodeUnstageVolume
  deriving DecidableEq

/-- The messages that answer them. -/
inductive NodeReply where
  | published
  | unpublished
  | stats (usage : List Message.VolumeUsage)
  | expanded (capacityBytes : Int64)
  | features (numbers : List Nat)
  | info (info : Message.NodeInfo)
  deriving DecidableEq

/-- Checks a message, has the service answer the request and puts the answer into a message. The refusal to publish a volume is
told in full. -/
def NodeService.serve {m : Type → Type} [Monad m] (s : NodeService m) : NodeCall → m (Except Status NodeReply)
  | .nodePublishVolume message =>
    respond Refusal.fullStatus (Request.NodePublishVolume.ofMessage message) s.nodePublishVolume fun _ => .ok .published
  | .nodeUnpublishVolume message =>
    respond Refusal.status (Request.NodeUnpublishVolume.ofMessage message) s.nodeUnpublishVolume fun _ => .ok .unpublished
  | .nodeGetVolumeStats message =>
    respond Refusal.status (Request.NodeGetVolumeStats.ofMessage message) s.nodeGetVolumeStats fun usage =>
      .stats <$> usage.mapM VolumeUsage.toMessage
  | .nodeExpandVolume message =>
    respond Refusal.status (Request.NodeExpandVolume.ofMessage message) s.nodeExpandVolume fun size =>
      .expanded <$> nodeExpansionBytes size
  | .nodeGetCapabilities => pure (.ok (.features s.features.numbers))
  | .nodeGetInfo => do
    match ← s.nodeGetInfo with
    | .error e => return .error e
    | .ok info => return .info <$> info.toMessage
  | .nodeStageVolume => pure (.error (.unsupported "NodeStageVolume"))
  | .nodeUnstageVolume => pure (.error (.unsupported "NodeUnstageVolume"))

end VolumeDriver.Csi
