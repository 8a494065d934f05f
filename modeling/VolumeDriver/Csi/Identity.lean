import VolumeDriver.Volume

/-!
# The identity of a plugin

What a plugin says of itself to an orchestrator, whichever of its services is served.
-/

namespace VolumeDriver.Csi

/-- How far volumes can grow. -/
inductive ExpansionSupport where
  | none
  | offline
  | online
  deriving DecidableEq, Repr

/-- What is told about a plugin. All but its name and version has a modest default. -/
structure Identity where
  /-- A domain name of at most 63 characters. -/
  name : String
  version : String
  /-- Whether volumes carry topology segments that a scheduler must honour. -/
  accessibilityConstraints : Bool := false
  expansion : ExpansionSupport := .none
  ready : Bool := true
  manifest : StringMap := .empty

/-- What a plugin can do. -/
inductive PluginCapability where
  /-- A service by its number. -/
  | service (number : Nat)
  /-- A kind of volume expansion by its number. -/
  | volumeExpansion (number : Nat)
  deriving DecidableEq, Repr

/-- The capabilities of a plugin, of which `controller` tells whether the same process serves the controller. -/
def Identity.capabilities (i : Identity) (controller : Bool) : List PluginCapability :=
  (if controller then [.service 1] else []) ++
  (if i.accessibilityConstraints then [.service 2] else []) ++
  match i.expansion with
  | .none => []
  | .offline => [.volumeExpansion 2]
  | .online => [.volumeExpansion 1]

end VolumeDriver.Csi
