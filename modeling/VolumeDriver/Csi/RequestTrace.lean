import VolumeDriver.Csi.Request

/-!
# How requests are written in traces

Every field of a request is written but the values of its secrets and the texts of its mount flags.
-/

namespace VolumeDriver.Csi

def traceRange (r : CapacityRange) : String :=
  Trace.record "CapacityRange"
    [("required_bytes", toString r.requiredBytes), ("limit_bytes", toString r.limitBytes)]

def TopologyRequirement.trace (t : TopologyRequirement) : String :=
  Trace.record "TopologyRequirement"
    [("requisite", Trace.list Trace.map t.requisite), ("preferred", Trace.list Trace.map t.preferred)]

namespace Request

def CreateVolume.trace (r : CreateVolume) : String :=
  Trace.record "CreateVolumeRequest" [
    ("name", Text.quote r.name),
    ("capacity_range", Trace.option traceRange r.capacityRange),
    ("volume_capabilities", Trace.list VolumeCapability.trace r.volumeCapabilities),
    ("parameters", Trace.map r.parameters),
    ("secrets", r.secrets.trace),
    ("accessibility_requirements", Trace.option TopologyRequirement.trace r.accessibilityRequirements)]

def DeleteVolume.trace (r : DeleteVolume) : String :=
  Trace.record "DeleteVolumeRequest" [("volume_id", Text.quote r.volumeId), ("secrets", r.secrets.trace)]

def ControllerPublishVolume.trace (r : ControllerPublishVolume) : String :=
  Trace.record "ControllerPublishVolumeRequest" [
    ("volume_id", Text.quote r.volumeId),
    ("node_id", Text.quote r.nodeId),
    ("volume_capability", r.volumeCapability.trace),
    ("readonly", Trace.bool r.readonly),
    ("secrets", r.secrets.trace),
    ("volume_context", Trace.map r.volumeContext)]

def ControllerUnpublishVolume.trace (r : ControllerUnpublishVolume) : String :=
  Trace.record "ControllerUnpublishVolumeRequest" [
    ("volume_id", Text.quote r.volumeId),
    ("node_id", Trace.option Text.quote r.nodeId),
    ("secrets", r.secrets.trace)]

def ValidateVolumeCapabilities.trace (r : ValidateVolumeCapabilities) : String :=
  Trace.record "ValidateVolumeCapabilitiesRequest" [
    ("volume_id", Text.quote r.volumeId),
    ("volume_context", Trace.map r.volumeContext),
    ("volume_capabilities", Trace.list VolumeCapability.trace r.volumeCapabilities),
    ("parameters", Trace.map r.parameters),
    ("secrets", r.secrets.trace)]

def ListVolumes.trace (r : ListVolumes) : String :=
  Trace.record "ListVolumesRequest" [
    ("max_entries", toString r.maxEntries), ("starting_token", Trace.option Text.quote r.startingToken)]

def ControllerExpandVolume.trace (r : ControllerExpandVolume) : String :=
  Trace.record "ControllerExpandVolumeRequest" [
    ("volume_id", Text.quote r.volumeId),
    ("capacity_range", Trace.option traceRange r.capacityRange),
    ("secrets", r.secrets.trace),
    ("volume_capability", Trace.option VolumeCapability.trace r.volumeCapability)]

def NodePublishVolume.trace (r : NodePublishVolume) : String :=
  Trace.record "NodePublishVolumeRequest" [
    ("volume_id", Text.quote r.volumeId),
    ("publish_context", Trace.map r.publishContext),
    ("staging_target_path", Trace.option Trace.path r.stagingTargetPath),
    ("target_path", Trace.path r.targetPath),
    ("volume_capability", r.volumeCapability.trace),
    ("readonly", Trace.bool r.readonly),
    ("secrets", r.secrets.trace),
    ("volume_context", Trace.map r.volumeContext)]

def NodeUnpublishVolume.trace (r : NodeUnpublishVolume) : String :=
  Trace.record "NodeUnpublishVolumeRequest" [
    ("volume_id", Text.quote r.volumeId), ("target_path", Trace.path r.targetPath)]

def NodeGetVolumeStats.trace (r : NodeGetVolumeStats) : String :=
  Trace.record "NodeGetVolumeStatsRequest" [
    ("volume_id", Text.quote r.volumeId),
    ("volume_path", Trace.path r.volumePath),
    ("staging_target_path", Trace.option Trace.path r.stagingTargetPath)]

def NodeExpandVolume.trace (r : NodeExpandVolume) : String :=
  Trace.record "NodeExpandVolumeRequest" [
    ("volume_id", Text.quote r.volumeId),
    ("volume_path", Trace.path r.volumePath),
    ("capacity_range", Trace.option traceRange r.capacityRange),
    ("staging_target_path", Trace.option Trace.path r.stagingTargetPath),
    ("volume_capability", Trace.option VolumeCapability.trace r.volumeCapability)]

end Request

end VolumeDriver.Csi
