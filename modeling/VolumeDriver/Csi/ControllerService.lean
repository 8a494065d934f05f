import VolumeDriver.Csi.Feature
import VolumeDriver.Csi.Request
import VolumeDriver.Csi.Response

/-!
# The controller's half of a plugin

A service answers checked requests, in any monad. What it does not offer it refuses as unsupported, which is the default of
all methods but the validation of capabilities. `ControllerService.serve` stands between the service and the messages: it
checks the request, has the service answer it, and puts the answer into a message.
-/

namespace VolumeDriver.Csi

/-- A service of the controller. A repeated request must be answered as the first one was. -/
structure ControllerService (m : Type → Type) [Pure m] where
  features : ControllerFeatures := .empty
  createVolume : Request.CreateVolume → m (Except Refusal VolumeInfo) :=
    fun _ => pure (.error (.unsupported "CreateVolume"))
  deleteVolume : Request.DeleteVolume → m (Except Refusal Unit) :=
    fun _ => pure (.error (.unsupported "DeleteVolume"))
  /-- Attaches a volume to a node; the answer is passed on to the node when it publishes the volume. -/
  controllerPublishVolume : Request.ControllerPublishVolume → m (Except Refusal StringMap) :=
    fun _ => pure (.error (.unsupported "ControllerPublishVolume"))
  controllerUnpublishVolume : Request.ControllerUnpublishVolume → m (Except Refusal Unit) :=
    fun _ => pure (.error (.unsupported "ControllerUnpublishVolume"))
  validateVolumeCapabilities : Request.ValidateVolumeCapabilities → m (Except Refusal Validation)
  listVolumes : Request.ListVolumes → m (Except Refusal VolumeList) :=
    fun _ => pure (.error (.unsupported "ListVolumes"))
  controllerExpandVolume : Request.ControllerExpandVolume → m (Except Refusal Expansion) :=
    fun _ => pure (.error (.unsupported "ControllerExpandVolume"))

/-- The calls of the controller's service. -/
inductive ControllerCall where
  | createVolume (message : Message.CreateVolume)
  | deleteVolume (message : Message.DeleteVolume)
  | controllerPublishVolume (message : Message.ControllerPublishVolume)
  | controllerUnpublishVolume (message : Message.ControllerUnpublishVolume)
  | validateVolumeCapabilities (message : Message.ValidateVolumeCapabilities)
  | listVolumes (message : Message.ListVolumes)
  | controllerExpandVolume (message : Message.ControllerExpandVolume)
  | controllerGetCapabilities
  /-- Methods that no service offers. -/
  | getCapacity | createSnapshot | deleteSnapshot | listSnapshots | controllerGetVolume
  deriving DecidableEq

/-- The messages that answer them. -/
inductive ControllerReply where
  | created (volume : Message.Volume)
  | deleted
  | published (publishContext : StringMap)
  | unpublished
  | validated (validation : Message.Validation)
  | listed (volumes : Message.VolumeList)
  | expanded (expansion : Message.Expansion)
  | features (numbers : List Nat)
  deriving DecidableEq

/-- Checks a message, has the service answer the request and puts the answer into a message. -/
def ControllerService.serve {m : Type → Type} [Monad m] (s : ControllerService m) :
    ControllerCall → m (Except Status ControllerReply)
  | .createVolume message =>
    respond Refusal.status (Request.CreateVolume.ofMessage message) s.createVolume fun v => .created <$> v.toMessage
  | .deleteVolume message => respond Refusal.status (Request.DeleteVolume.ofMessage message) s.deleteVolume fun _ => .ok .deleted
  | .controllerPublishVolume message =>
    respond Refusal.status (Request.ControllerPublishVolume.ofMessage message) s.controllerPublishVolume fun c => .ok (.published c)
  | .controllerUnpublishVolume message =>
    respond Refusal.status (Request.ControllerUnpublishVolume.ofMessage message) s.controllerUnpublishVolume fun _ => .ok .unpublished
  | .validateVolumeCapabilities message =>
    respond Refusal.status (Request.ValidateVolumeCapabilities.ofMessage message) s.validateVolumeCapabilities fun v => .ok (.validated v.toMessage)
  | .listVolumes message =>
    respond Refusal.status (Request.ListVolumes.ofMessage message) s.listVolumes fun l => .listed <$> l.toMessage
  | .controllerExpandVolume message =>
    respond Refusal.status (Request.ControllerExpandVolume.ofMessage message) s.controllerExpandVolume fun e => .expanded <$> e.toMessage
  | .controllerGetCapabilities => pure (.ok (.features s.features.numbers))
  | .getCapacity => pure (.error (.unsupported "GetCapacity"))
  | .createSnapshot => pure (.error (.unsupported "CreateSnapshot"))
  | .deleteSnapshot => pure (.error (.unsupported "DeleteSnapshot"))
  | .listSnapshots => pure (.error (.unsupported "ListSnapshots"))
  | .controllerGetVolume => pure (.error (.unsupported "ControllerGetVolume"))

end VolumeDriver.Csi
