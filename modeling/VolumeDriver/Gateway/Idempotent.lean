import VolumeDriver.Gateway.Call

/-!
# Calls that are safe to repeat

An orchestrator calls at least once, and a retry cannot tell whether the attempt before it took effect. Each call becomes a
program over the gateway below, in which an outcome that proves the wanted state is already reached is turned into success
and every other error is passed on unchanged. Nothing is retried.
-/

namespace VolumeDriver.Idempotent

open Program

/-- Makes a volume, or finds one of that name that will do. A volume that disappeared in between is left to a retry. -/
def create (o : CreateOptions) : Program gateway (Except VolumeError Volume) := do
  match ← askGateway (.create o) with
  | .error .volumeAlreadyExists =>
    match ← askGateway (.getByName o.name) with
    | .ok existing => pure (if o.accepts existing then .ok existing else .error .volumeAlreadyExists)
    | .error .volumeNotFound => pure (.error .volumeAlreadyExists)
    | .error e => pure (.error e)
  | r => pure r

/-- Detaches a volume from whichever server holds it, then forgets it. -/
def delete (id : VolumeId) : Program gateway (Except VolumeError Unit) := do
  let forget : Program gateway (Except VolumeError Unit) := do
    match ← askGateway (.delete id) with
    | .error .volumeNotFound => pure (.ok ())
    | r => pure r
  match ← askGateway (.detach id none) with
  | .ok () | .error .volumeNotFound | .error .notAttached => forget
  | .error e => pure (.error e)

/-- Attaches a volume; whatever the failure, a volume that is attached to the server is a success. -/
def attach (id : VolumeId) (server : ServerId) : Program gateway (Except VolumeError Unit) := do
  match ← askGateway (.attach id server) with
  | .ok () => pure (.ok ())
  | .error e =>
    match ← askGateway (.getById id) with
    | .ok v => pure (if v.attachedServer = some server then .ok () else .error e)
    | .error _ => pure (.error e)

/-- Detaches a volume. One that is attached to another server is not attached to the named one. -/
def detach (id : VolumeId) (server : Option ServerId) : Program gateway (Except VolumeError Unit) := do
  match ← askGateway (.detach id server) with
  | .error .notAttached | .error .attached => pure (.ok ())
  | r => pure r

/-- The program that stands for a call. -/
def layer : (c : GatewayCall) → Program gateway (Except VolumeError c.Answer)
  | .create o => create o
  | .delete id => delete id
  | .attach id server => attach id server
  | .detach id server => detach id server
  | .getById id => askGateway (.getById id)
  | .getByName name => askGateway (.getByName name)
  | .resize id sizeGib => askGateway (.resize id sizeGib)
  | .all => askGateway .all

end VolumeDriver.Idempotent
