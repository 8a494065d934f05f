import VolumeDriver.Csi.ControllerService
import VolumeDriver.Gateway.Idempotent
import VolumeDriver.Labels
import VolumeDriver.Plugin

/-!
# The controller: volumes of a gateway, offered to an orchestrator

Each request becomes a program over the gateway. Run through the idempotent layer (`Controller.program`), so that the retries
of an orchestrator converge, it is a program over the gateway below, in which every step is one call.
-/

namespace VolumeDriver

open Csi

/-- How a controller is set up. -/
structure Controller where
  /-- The location of a volume whose request names none. -/
  location : String
  /-- The operator's labels for every new volume. -/
  extraLabels : StringMap := .empty

namespace Controller

/-- Whether an access mode can be had of a volume that is attached to one server at a time. -/
def supports (c : VolumeCapability) : Bool :=
  c.mode = .singleNodeWriter || c.mode = .singleNodeMultiWriter

def topology (location : String) : StringMap := SortedMap.empty.insert Plugin.locationKey location

/-- A volume as it is described to an orchestrator. -/
def describe (v : Volume) (context : StringMap) : VolumeInfo :=
  ⟨toString v.id, v.sizeBytes, context, [topology v.location]⟩

/-- The first location among the preferred, then among the requisite topologies, or the one that is set up. -/
def locationFor (c : Controller) (requirement : Option TopologyRequirement) : String :=
  match requirement with
  | none => c.location
  | some r => ((r.preferred ++ r.requisite).findSome? fun t => t.get? Plugin.locationKey).getD c.location

/-- The labels that the orchestrator's own parameters stand for. -/
def orchestratorLabels (parameters : StringMap) : StringMap :=
  SortedMap.ofList (Plugin.orchestratorLabels.filterMap fun (parameter, label) =>
    (parameters.get? parameter).map fun value => (label, value))

/-- The labels of a new volume: a free label wins over one of the orchestrator, that over one of the operator, and that over
the label that says who manages the volume. -/
def labelsFor (c : Controller) (parameters : StringMap) : Except Labels.LabelError StringMap := do
  let free ← match parameters.get? Plugin.labelsKey with
    | some value => Labels.parse value
    | none => .ok .empty
  .ok (Labels.merge
    [SortedMap.empty.insert Plugin.managedBy.1 Plugin.managedBy.2, c.extraLabels, orchestratorLabels parameters, free])

/-- The refusal that a failure of the gateway at publishing becomes. -/
def publishRefusal (e : VolumeError) : Refusal :=
  let message := "failed to publish volume: " ++ e.message
  match e with
  | .volumeNotFound => .because .volumeDoesNotExist message
  | .serverNotFound => .because .nodeDoesNotExist message
  | .attached => .because .publishedToAnotherNode message
  | .attachLimitReached => .because .maxVolumesAttached message
  | .lockedServer => .because .nodeLocked message
  | _ => .other (.internal message)

def volumeMissing (id : String) : Refusal := .because .volumeDoesNotExist ("volume " ++ id ++ " not found")

def serverMissing (id : String) : Refusal := .because .nodeDoesNotExist ("server " ++ id ++ " not found")

def invalidRange : Refusal := .because .unsupportedCapacityRange "invalid capacity range"

/-- What is asked of the gateway for a request to create a volume, if the request can be met at all. -/
def createOptions (c : Controller) (r : Request.CreateVolume) : Except Refusal CreateOptions :=
  if !r.volumeCapabilities.all supports then .error (.other (.invalidArgument "volume capability is not supported"))
  else
    match CapacityRange.sizeBounds r.capacityRange with
    | none => .error invalidRange
    | some (least, most) =>
      match c.labelsFor r.parameters with
      | .error e => .error (.other (.invalidArgument ("invalid volume labels: " ++ e.message)))
      | .ok labels => .ok ⟨r.name, least, most, c.locationFor r.accessibilityRequirements, labels⟩

def createVolume (c : Controller) (r : Request.CreateVolume) : Program gateway (Except Refusal VolumeInfo) :=
  match c.createOptions r with
  | .error e => pure (.error e)
  | .ok options => do
    match ← askGateway (.create options) with
    | .ok v =>
      let context := match r.parameters.get? Plugin.formatOptionsKey with
        | some value => SortedMap.empty.insert Plugin.formatOptionsKey value
        | none => .empty
      return .ok (describe v context)
    | .error .volumeAlreadyExists =>
      return .error (.because .alreadyExists ("volume " ++ r.name ++ " already exists with different parameters"))
    | .error e => return .error (.other (.internal ("failed to create volume: " ++ e.message)))

/-- Deletes a volume. An identifier that names none is of a volume deleted already. -/
def deleteVolume (r : Request.DeleteVolume) : Program gateway (Except Refusal Unit) :=
  match VolumeId.ofString r.volumeId with
  | .error _ => pure (.ok ())
  | .ok id => do
    match ← askGateway (.delete id) with
    | .ok () | .error .volumeNotFound => return .ok ()
    | .error .attached => return .error (.because .volumeInUse ("volume " ++ toString id ++ " is still attached"))
    | .error e => return .error (.other (.internal ("failed to delete volume: " ++ e.message)))

/-- Attaches a volume to a server. The answer holds the path of its device there. -/
def publishVolume (r : Request.ControllerPublishVolume) : Program gateway (Except Refusal StringMap) :=
  if r.readonly then pure (.error (.other (.invalidArgument "readonly volumes are not supported")))
  else if !supports r.volumeCapability then
    pure (.error (.other (.invalidArgument "volume capability is not supported")))
  else
    match VolumeId.ofString r.volumeId, ServerId.ofString r.nodeId with
    | .error _, _ => pure (.error (volumeMissing r.volumeId))
    | .ok _, .error _ => pure (.error (serverMissing r.nodeId))
    | .ok id, .ok server => do
      match ← askGateway (.attach id server) with
      | .error e => return .error (publishRefusal e)
      | .ok () =>
        match ← askGateway (.getById id) with
        | .error e => return .error (publishRefusal e)
        | .ok v => return .ok (SortedMap.empty.insert Plugin.devicePathKey v.linuxDevice)

/-- The server that a volume is to be detached from, if one is named. -/
def namedServer : Option String → Except Refusal (Option ServerId)
  | none => .ok none
  | some node =>
    match ServerId.ofString node with
    | .error _ => .error (serverMissing node)
    | .ok server => .ok (some server)

def unpublishVolume (r : Request.ControllerUnpublishVolume) : Program gateway (Except Refusal Unit) :=
  match VolumeId.ofString r.volumeId, namedServer r.nodeId with
  | .error _, _ => pure (.error (volumeMissing r.volumeId))
  | .ok _, .error e => pure (.error e)
  | .ok id, .ok server => do
    match ← askGateway (.detach id server) with
    | .ok () | .error .volumeNotFound => return .ok ()
    | .error .lockedServer =>
      return .error (.because .nodeLocked ("server of volume " ++ toString id ++ " is locked"))
    | .error e => return .error (.other (.internal ("failed to unpublish volume: " ++ e.message)))

def validateCapabilities (r : Request.ValidateVolumeCapabilities) : Program gateway (Except Refusal Validation) :=
  match VolumeId.ofString r.volumeId with
  | .error _ => pure (.error (volumeMissing r.volumeId))
  | .ok id => do
    match ← askGateway (.getById id) with
    | .error .volumeNotFound => return .error (volumeMissing r.volumeId)
    | .error e => return .error (.other (.internal ("failed to get volume: " ++ e.message)))
    | .ok _ =>
      if r.volumeCapabilities.all supports then
        return .ok (.confirmed r.volumeContext r.volumeCapabilities r.parameters)
      else return .ok (.notConfirmed "only single node access modes are supported")

/-- A volume in a list, with the server that holds it. -/
def listEntry (v : Volume) : ListedVolume := ⟨describe v .empty, (v.attachedServer.map toString).toList⟩

/-- Lists all volumes. There are no pages, so there is no token to start from. -/
def listVolumes (r : Request.ListVolumes) : Program gateway (Except Refusal VolumeList) :=
  match r.startingToken with
  | some token =>
    pure (.error (.because .invalidStartingToken
      ("pagination is not supported, got starting token " ++ Text.quote token)))
  | none => do
    match ← askGateway .all with
    | .error e => return .error (.other (.internal ("failed to list volumes: " ++ e.message)))
    | .ok volumes => return .ok ⟨volumes.map listEntry, none⟩

/-- Grows a volume to the least size asked for. One that is large enough is left as it is. -/
def expandVolume (r : Request.ControllerExpandVolume) : Program gateway (Except Refusal Expansion) :=
  match VolumeId.ofString r.volumeId, CapacityRange.sizeBounds r.capacityRange with
  | .error _, _ => pure (.error (volumeMissing r.volumeId))
  | .ok _, none => pure (.error invalidRange)
  | .ok id, some (least, _) => do
    match ← askGateway (.resize id least) with
    | .ok () | .error .volumeSizeAlreadyReached =>
      match ← askGateway (.getById id) with
      | .ok v => return .ok ⟨v.sizeBytes, true⟩
      | .error .volumeNotFound => return .error (volumeMissing r.volumeId)
      | .error e => return .error (.other (.internal ("failed to get volume: " ++ e.message)))
    | .error .volumeNotFound => return .error (volumeMissing r.volumeId)
    | .error e => return .error (.other (.internal ("failed to resize volume: " ++ e.message)))

/-- The controller as a service over a gateway. -/
def service (c : Controller) : ControllerService (Program gateway) where
  features := .ofList
    [.createDeleteVolume, .publishUnpublishVolume, .listVolumes, .listVolumesPublishedNodes, .expandVolume,
     .singleNodeMultiWriter]
  createVolume := c.createVolume
  deleteVolume := deleteVolume
  controllerPublishVolume := publishVolume
  controllerUnpublishVolume := unpublishVolume
  validateVolumeCapabilities := validateCapabilities
  listVolumes := listVolumes
  controllerExpandVolume := expandVolume

/-- A call of the controller as a program of single calls of the gateway below the idempotent layer. -/
def program (c : Controller) (call : ControllerCall) : Program gateway (Except Status ControllerReply) :=
  (c.service.serve call).through Idempotent.layer

end Controller

end VolumeDriver
