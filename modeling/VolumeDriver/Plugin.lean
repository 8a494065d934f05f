import VolumeDriver.Csi.Identity
import VolumeDriver.Endpoint

/-!
# The plugin: its name and the keys it reads and writes

Names under which the driver is known to an orchestrator, and the keys of the maps that requests and answers carry.
-/

namespace VolumeDriver.Plugin

/-- The name reported by the identity service. -/
def name : String := "csi.cloudvol.io"

def version : String := "0.1.0"

/-- The topology segment that holds the location of a volume or a node. -/
def locationKey : String := "csi.cloudvol.io/location"

/-- The entry of a volume context that holds extra options for making a filesystem. -/
def formatOptionsKey : String := "fsFormatOptions"

/-- The entry of a publish context that holds the device path of an attached volume. -/
def devicePathKey : String := "devicePath"

/-- The secret that holds the passphrase of an encrypted volume. -/
def passphraseKey : String := "encryption-passphrase"

/-- The request parameter that holds free labels, written `key=value,...`. -/
def labelsKey : String := "labels"

/-- Request parameters of the orchestrator, and the labels their values become. -/
def orchestratorLabels : List (String × String) :=
  [("csi.storage.k8s.io/pvc/name", "pvc-name"),
   ("csi.storage.k8s.io/pvc/namespace", "pvc-namespace"),
   ("csi.storage.k8s.io/pv/name", "pv-name")]

/-- The label that every created volume carries unless a later source says otherwise. -/
def managedBy : String × String := ("managed-by", "cloudvol-csi")

/-- The most volumes a node takes unless it is configured otherwise. -/
def defaultMaxVolumes : UInt32 := 16

/-- The endpoint served on unless it is configured otherwise. -/
def defaultEndpoint : Endpoint := .unix "/run/csi/socket"

/-- What the driver says of itself; it is ready once it listens. -/
def identity (ready : Bool) : Csi.Identity where
  name := name
  version := version
  accessibilityConstraints := true
  expansion := .online
  ready := ready

end VolumeDriver.Plugin
