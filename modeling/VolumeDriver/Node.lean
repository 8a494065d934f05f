import VolumeDriver.Csi.NodeService
import VolumeDriver.Plugin
import VolumeDriver.Publication

/-!
# The node: devices of its host, offered to an orchestrator

Each request becomes a program over the host.
-/

namespace VolumeDriver

open Csi Files

/-- How a node is set up. -/
structure Node where
  /-- The identifier of the server that the node is. -/
  id : String
  location : String
  maxVolumes : UInt32 := Plugin.defaultMaxVolumes

namespace Node

/-- The refusal that a failure of publishing becomes. -/
def refusal (e : PublishError) : Refusal :=
  match e with
  | .formatOptions => .other (.invalidArgument e.message)
  | e => .other (.internal e.message)

/-- How a request asks for its device to be published. -/
def publishOptions (r : Request.NodePublishVolume) : PublishOptions :=
  let o : PublishOptions :=
    { block := r.volumeCapability.isBlock, readonly := r.readonly
      passphrase := r.secrets.entries.get? Plugin.passphraseKey
      formatOptions := r.volumeContext.get? Plugin.formatOptionsKey }
  match r.volumeCapability.access with
  | .block => o
  | .mount v => { o with fsType := v.fsType.getD "", flags := v.mountFlags.flags }

/-- A task of publishing as a service answers it. -/
def answer {α : Type} (t : Publication.Task α) : Program host (Except Refusal α) := do
  match ← t.run with
  | .ok a => return .ok a
  | .error e => return .error (refusal e)

/-- The device that a request wants published. -/
def device? (r : Request.NodePublishVolume) : Option Path :=
  ((r.publishContext.get? Plugin.devicePathKey).filter (!·.isEmpty)).map Path.mk

def publishVolume (r : Request.NodePublishVolume) : Program host (Except Refusal Unit) :=
  match device? r with
  | none => pure (.error (.other (.invalidArgument ("missing " ++ Plugin.devicePathKey ++ " in publish context"))))
  | some device => answer (Publication.publish device r.targetPath (publishOptions r))

def unpublishVolume (r : Request.NodeUnpublishVolume) : Program host (Except Refusal Unit) :=
  answer (Publication.unpublish r.targetPath)

/-- Goes on only if there is something at the path of a volume. -/
def onExistingPath {α : Type} (p : Path) (next : Program host (Except Refusal α)) : Program host (Except Refusal α) := do
  if ← Publication.pathExists p then next
  else return .error (.because .volumeDoesNotExist ("volume path " ++ p.text ++ " does not exist"))

def volumeUsage (u : FilesystemUsage) : List VolumeUsage :=
  [⟨.bytes, u.availableBytes, u.totalBytes, u.usedBytes⟩,
   ⟨.inodes, u.availableInodes, u.totalInodes, u.usedInodes⟩]

def getVolumeStats (r : Request.NodeGetVolumeStats) : Program host (Except Refusal (List VolumeUsage)) :=
  onExistingPath r.volumePath (answer (volumeUsage <$> Publication.onHost (Publication.usage r.volumePath)))

/-- Grows the filesystem of a volume. A device that is published as it is grows by itself. The size is not reported. -/
def expandVolume (r : Request.NodeExpandVolume) : Program host (Except Refusal (Option UInt64)) :=
  onExistingPath r.volumePath
    (if r.volumeCapability.any (·.isBlock) then pure (.ok none)
     else answer ((fun _ => none) <$> Publication.grow r.volumePath))

/-- The node as a service over its host. -/
def service (n : Node) : NodeService (Program host) where
  features := .ofList [.getVolumeStats, .expandVolume, .singleNodeMultiWriter]
  nodePublishVolume := publishVolume
  nodeUnpublishVolume := unpublishVolume
  nodeGetVolumeStats := getVolumeStats
  nodeExpandVolume := expandVolume
  nodeGetInfo := pure (.ok
    ⟨n.id, n.maxVolumes, some (SortedMap.empty.insert Plugin.locationKey n.location)⟩)

end Node

end VolumeDriver
