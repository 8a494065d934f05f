import VolumeDriver.Gateway.Call

/-!
# A provider's volumes, kept in memory

The store answers as the provider does and not as an orchestrator would like it: a second volume of one name is refused, a
volume that is attached is not attached again, a call that finds nothing says so. A failed call leaves the store as it was.
-/

namespace VolumeDriver

/-- Volumes under their identifiers, with the labels each was made with, and the servers that exist. -/
structure Store where
  nextId : UInt64 := 1
  volumes : SortedMap VolumeId Volume := .empty
  servers : List ServerId := []
  labels : SortedMap VolumeId StringMap := .empty
  maxAttachments : Nat := 16
  deriving DecidableEq

namespace Store

/-- The path under which a server sees a volume that is attached to it. -/
def devicePath (id : VolumeId) : String := "/dev/disk/by-id/scsi-0CloudVol_Volume_" ++ toString id

def addServer (s : Store) (id : ServerId) : Store :=
  if id ∈ s.servers then s else { s with servers := s.servers ++ [id] }

/-- Adds a volume that was made elsewhere. -/
def insert (s : Store) (v : Volume) : Store :=
  { s with nextId := max s.nextId (v.id.val + 1), volumes := s.volumes.insert v.id v }

/-- Puts a volume in the place of the one with its identifier. -/
def put (s : Store) (id : VolumeId) (v : Volume) : Store := { s with volumes := s.volumes.insert id v }

/-- The volume of a name; of several, the one with the least identifier. -/
def findName (s : Store) (name : String) : Option Volume := s.volumes.values.find? (·.name = name)

/-- How many volumes a server holds. -/
def attachedTo (s : Store) (server : ServerId) : Nat :=
  s.volumes.values.countP (·.attachedServer = some server)

/-- Makes a detached volume of the least size asked for, unless its name is taken. -/
def create (o : CreateOptions) (s : Store) : Except VolumeError Volume × Store :=
  if s.volumes.values.any (·.name = o.name) then (.error .volumeAlreadyExists, s)
  else
    let id : VolumeId := ⟨s.nextId⟩
    let v : Volume := ⟨id, o.name, o.minSizeGib, o.location, "", none⟩
    (.ok v, { s with
      nextId := s.nextId + 1, volumes := s.volumes.insert id v, labels := s.labels.insert id o.labels })

def getById (id : VolumeId) (s : Store) : Except VolumeError Volume :=
  match s.volumes.get? id with
  | some v => .ok v
  | none => .error .volumeNotFound

def getByName (name : String) (s : Store) : Except VolumeError Volume :=
  match s.findName name with
  | some v => .ok v
  | none => .error .volumeNotFound

/-- Forgets a detached volume and its labels. -/
def delete (id : VolumeId) (s : Store) : Except VolumeError Unit × Store :=
  match s.volumes.get? id with
  | none => (.error .volumeNotFound, s)
  | some v =>
    if v.attachedServer.isSome then (.error .attached, s)
    else (.ok (), { s with volumes := s.volumes.erase id, labels := s.labels.erase id })

/-- Attaches a detached volume to a server that exists and has a free place. -/
def attach (id : VolumeId) (server : ServerId) (s : Store) : Except VolumeError Unit × Store :=
  match s.volumes.get? id with
  | none => (.error .volumeNotFound, s)
  | some v =>
    if server ∉ s.servers then (.error .serverNotFound, s)
    else if v.attachedServer.isSome then (.error .attached, s)
    else if s.maxAttachments ≤ s.attachedTo server then (.error .attachLimitReached, s)
    else (.ok (), s.put id { v with attachedServer := some server, linuxDevice := devicePath id })

/-- Detaches a volume from the server that holds it, which is the named one if one is named. -/
def detach (id : VolumeId) (server : Option ServerId) (s : Store) : Except VolumeError Unit × Store :=
  match s.volumes.get? id with
  | none => (.error .volumeNotFound, s)
  | some v =>
    match v.attachedServer, server with
    | none, _ => (.error .notAttached, s)
    | some holder, some named =>
      if holder ≠ named then (.error .attached, s)
      else (.ok (), s.put id { v with attachedServer := none, linuxDevice := "" })
    | some _, none => (.ok (), s.put id { v with attachedServer := none, linuxDevice := "" })

/-- Grows a volume. -/
def resize (id : VolumeId) (sizeGib : UInt64) (s : Store) : Except VolumeError Unit × Store :=
  match s.volumes.get? id with
  | none => (.error .volumeNotFound, s)
  | some v =>
    if sizeGib ≤ v.sizeGib then (.error .volumeSizeAlreadyReached, s)
    else (.ok (), s.put id { v with sizeGib := sizeGib })

/-- Answers one gateway call. -/
def answer : (c : GatewayCall) → Store → Except VolumeError c.Answer × Store
  | .create o, s => s.create o
  | .getById id, s => (s.getById id, s)
  | .getByName name, s => (s.getByName name, s)
  | .delete id, s => s.delete id
  | .attach id server, s => s.attach id server
  | .detach id server, s => s.detach id server
  | .resize id sizeGib, s => s.resize id sizeGib
  | .all, s => (.ok s.volumes.values, s)

end Store

/-- A store that logs the operations called on it and can be made to fail. -/
structure FaultyStore where
  store : Store := {}
  /-- Failures still to come; each operation takes its own in order. -/
  failures : List (GatewayOp × VolumeError) := []
  calls : List GatewayOp := []
  deriving DecidableEq

namespace FaultyStore

/-- Takes the first failure queued for an operation out of the queue. -/
def takeFailure (op : GatewayOp) : List (GatewayOp × VolumeError) → Option (VolumeError × List (GatewayOp × VolumeError))
  | [] => none
  | f :: fs =>
    if f.1 = op then some (f.2, fs)
    else (takeFailure op fs).map fun (e, rest) => (e, f :: rest)

/-- Makes the next call of an operation fail, after the failures already queued for it. -/
def failNext (s : FaultyStore) (op : GatewayOp) (e : VolumeError) : FaultyStore :=
  { s with failures := s.failures ++ [(op, e)] }

/-- Logs a call, then fails as queued or lets the store answer. -/
def answer (c : GatewayCall) (s : FaultyStore) : Except VolumeError c.Answer × FaultyStore :=
  let s := { s with calls := s.calls ++ [c.op] }
  match takeFailure c.op s.failures with
  | some (e, rest) => (.error e, { s with failures := rest })
  | none =>
    let (r, store) := s.store.answer c
    (r, { s with store := store })

/-- How often an operation was called, failed calls included. -/
def callsOf (s : FaultyStore) (op : GatewayOp) : Nat := s.calls.count op

end FaultyStore

end VolumeDriver
