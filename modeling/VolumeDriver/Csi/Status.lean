import VolumeDriver.Text.Quoted

/-!
# Status codes and refusals

A call that fails is answered with a status: a code and a message. A service says why it refuses a call
(`Refusal`), and each reason has its code; the message is what the service says, or, where a refusal is told in full, the
reason and what the service says.
-/

namespace VolumeDriver.Csi

/-- The codes of a status, in the order of their numbers. -/
inductive Code where
  | ok | cancelled | unknown | invalidArgument | deadlineExceeded | notFound | alreadyExists | permissionDenied
  | resourceExhausted | failedPrecondition | aborted | outOfRange | unimplemented | internal | unavailable | dataLoss
  | unauthenticated
  deriving DecidableEq, Repr

namespace Code

def name : Code → String
  | ok => "Ok"
  | cancelled => "Cancelled"
  | unknown => "Unknown"
  | invalidArgument => "InvalidArgument"
  | deadlineExceeded => "DeadlineExceeded"
  | notFound => "NotFound"
  | alreadyExists => "AlreadyExists"
  | permissionDenied => "PermissionDenied"
  | resourceExhausted => "ResourceExhausted"
  | failedPrecondition => "FailedPrecondition"
  | aborted => "Aborted"
  | outOfRange => "OutOfRange"
  | unimplemented => "Unimplemented"
  | internal => "Internal"
  | unavailable => "Unavailable"
  | dataLoss => "DataLoss"
  | unauthenticated => "Unauthenticated"

def all : List Code :=
  [ok, cancelled, unknown, invalidArgument, deadlineExceeded, notFound, alreadyExists, permissionDenied, resourceExhausted,
   failedPrecondition, aborted, outOfRange, unimplemented, internal, unavailable, dataLoss, unauthenticated]

/-- The code of a number; a number that has none is unknown. -/
def ofNumber (n : Int) : Code := if n < 0 then unknown else all[n.toNat]?.getD unknown

end Code

/-- The outcome of a failed call. -/
structure Status where
  code : Code
  message : String
  deriving DecidableEq, Repr

namespace Status

def invalidArgument (message : String) : Status := ⟨.invalidArgument, message⟩

def outOfRange (message : String) : Status := ⟨.outOfRange, message⟩

def internal (message : String) : Status := ⟨.internal, message⟩

/-- The status of a method that the service does not offer. -/
def unsupported (method : String) : Status := ⟨.unimplemented, "Unsupported method " ++ method ++ " called"⟩

/-- The status of a method of a service that is not served at all. -/
def unserved : Status := ⟨.unimplemented, ""⟩

def describe (s : Status) : String :=
  "status: " ++ s.code.name ++ ", message: " ++ Text.quote s.message ++
    ", details: [], metadata: MetadataMap \x7b headers: \x7b\x7d \x7d"

end Status

/-- Why a service refuses a call. -/
inductive Reason where
  | alreadyExists
  | unsupportedCapacityRange
  /-- The same of the size a node is asked to grow a volume to. -/
  | unsupportedNodeCapacityRange
  | volumeInUse
  | volumeDoesNotExist
  | nodeDoesNotExist
  | publishedToAnotherNode
  | maxVolumesAttached
  | nodeLocked
  | invalidStartingToken
  | incompatibleVolumePublished
  | exceedsCapabilities
  deriving DecidableEq, Repr

namespace Reason

def describe : Reason → String
  | alreadyExists => "Volume already exists"
  | unsupportedCapacityRange => "Unsupported capacity range"
  | unsupportedNodeCapacityRange => "Unsupported capacity_range"
  | volumeInUse => "Volume in use"
  | volumeDoesNotExist => "Volume does not exist"
  | nodeDoesNotExist => "Node does not exist"
  | publishedToAnotherNode => "Volume published to another node"
  | maxVolumesAttached => "Max volumes attached"
  | nodeLocked => "Node locked"
  | invalidStartingToken => "Invalid starting token"
  | incompatibleVolumePublished => "Volume published but is incompatible"
  | exceedsCapabilities => "Exceeds capabilities"

def code : Reason → Code
  | alreadyExists | incompatibleVolumePublished => .alreadyExists
  | unsupportedCapacityRange | unsupportedNodeCapacityRange => .outOfRange
  | volumeInUse | publishedToAnotherNode | exceedsCapabilities => .failedPrecondition
  | volumeDoesNotExist | nodeDoesNotExist => .notFound
  | maxVolumesAttached => .resourceExhausted
  | nodeLocked => .unavailable
  | invalidStartingToken => .aborted

end Reason

/-- A refused call: a reason with what there is to say about it, or a status as it is. -/
inductive Refusal where
  | because (reason : Reason) (detail : String)
  | other (status : Status)
  deriving DecidableEq, Repr

namespace Refusal

/-- The refusal of a method that the service does not offer. -/
def unsupported (method : String) : Refusal := other (.unsupported method)

def describe : Refusal → String
  | because reason detail => reason.describe ++ ": " ++ detail
  | other status => status.describe

/-- The status of a refusal, whose message is the detail. -/
def status : Refusal → Status
  | because reason detail => ⟨reason.code, detail⟩
  | other status => status

/-- The status of a refusal told in full: the message names the reason. -/
def fullStatus : Refusal → Status
  | because reason detail => ⟨reason.code, reason.describe ++ ": " ++ detail⟩
  | other status => status

end Refusal

end VolumeDriver.Csi
