import VolumeDriver.Csi.Status
import VolumeDriver.Trace

/-!
# Volume capabilities: how a volume is going to be used

A capability is an access mode and an access type. In a message both may be missing and the mode is any number; a
capability that was checked has both, and a number without a meaning has become the unknown mode. Mount flags may hold
secrets, so a trace shows their number alone.
-/

namespace VolumeDriver.Csi

inductive AccessMode where
  | unknown
  /-- Reading and writing on a single node. -/
  | singleNodeWriter
  | singleNodeReaderOnly
  | multiNodeReaderOnly
  | multiNodeSingleWriter
  | multiNodeMultiWriter
  /-- Reading and writing by a single workload on a single node. -/
  | singleNodeSingleWriter
  /-- Reading and writing by several workloads on a single node. -/
  | singleNodeMultiWriter
  deriving DecidableEq, Repr

namespace AccessMode

def name : AccessMode → String
  | unknown => "Unknown"
  | singleNodeWriter => "SingleNodeWriter"
  | singleNodeReaderOnly => "SingleNodeReaderOnly"
  | multiNodeReaderOnly => "MultiNodeReaderOnly"
  | multiNodeSingleWriter => "MultiNodeSingleWriter"
  | multiNodeMultiWriter => "MultiNodeMultiWriter"
  | singleNodeSingleWriter => "SingleNodeSingleWriter"
  | singleNodeMultiWriter => "SingleNodeMultiWriter"

/-- The number of a mode in a message. -/
def number : AccessMode → Int32
  | unknown => 0
  | singleNodeWriter => 1
  | singleNodeReaderOnly => 2
  | multiNodeReaderOnly => 3
  | multiNodeSingleWriter => 4
  | multiNodeMultiWriter => 5
  | singleNodeSingleWriter => 6
  | singleNodeMultiWriter => 7

def ofNumber (n : Int32) : AccessMode :=
  if n = 1 then singleNodeWriter
  else if n = 2 then singleNodeReaderOnly
  else if n = 3 then multiNodeReaderOnly
  else if n = 4 then multiNodeSingleWriter
  else if n = 5 then multiNodeMultiWriter
  else if n = 6 then singleNodeSingleWriter
  else if n = 7 then singleNodeMultiWriter
  else unknown

end AccessMode

/-- Flags for mounting a volume. -/
structure MountFlags where
  flags : List String
  deriving DecidableEq, Repr

/-- What a trace shows of mount flags. -/
def MountFlags.trace (f : MountFlags) : String := "<" ++ toString f.flags.length ++ " redacted>"

structure MountVolume where
  /-- The filesystem, unless the plugin is to choose it. -/
  fsType : Option String
  mountFlags : MountFlags
  deriving DecidableEq, Repr

def MountVolume.trace (v : MountVolume) : String :=
  Trace.record "MountVolume" [("fs_type", Trace.option Text.quote v.fsType), ("mount_flags", v.mountFlags.trace)]

inductive AccessType where
  /-- The device itself. -/
  | block
  /-- A filesystem on it. -/
  | mount (volume : MountVolume)
  deriving DecidableEq, Repr

def AccessType.trace : AccessType → String
  | block => "Block"
  | mount v => "Mount(" ++ v.trace ++ ")"

structure VolumeCapability where
  mode : AccessMode
  access : AccessType
  deriving DecidableEq, Repr

namespace VolumeCapability

def isBlock (c : VolumeCapability) : Bool := c.access = .block

def trace (c : VolumeCapability) : String :=
  Trace.record "VolumeCapability" [("access_mode", c.mode.name), ("access_type", c.access.trace)]

end VolumeCapability

namespace Message

inductive AccessType where
  | block
  /-- An empty filesystem is one that is not set. -/
  | mount (fsType : String) (mountFlags : List String)
  deriving DecidableEq, Repr

/-- A capability as a message holds it. -/
structure VolumeCapability where
  mode : Option Int32 := none
  access : Option AccessType := none
  deriving DecidableEq, Repr

end Message

namespace AccessType

def ofMessage : Message.AccessType → AccessType
  | .block => block
  | .mount fsType flags => mount ⟨if fsType.isEmpty then none else some fsType, ⟨flags⟩⟩

def toMessage : AccessType → Message.AccessType
  | block => .block
  | mount v => .mount (v.fsType.getD "") v.mountFlags.flags

end AccessType

namespace VolumeCapability

/-- Checks a capability: mode and access type must be there. -/
def ofMessage (m : Message.VolumeCapability) : Except Status VolumeCapability :=
  match m.mode, m.access with
  | none, _ => .error (.invalidArgument "VolumeCapability.access_mode missing")
  | some _, none => .error (.invalidArgument "VolumeCapability.access_type missing")
  | some mode, some access => .ok ⟨.ofNumber mode, .ofMessage access⟩

def toMessage (c : VolumeCapability) : Message.VolumeCapability := ⟨some c.mode.number, some c.access.toMessage⟩

end VolumeCapability

end VolumeDriver.Csi
