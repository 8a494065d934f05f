import VolumeDriver.Gateway.Call
import VolumeDriver.Gateway.ProviderClient

/-!
# A gateway on top of the provider

Each gateway call is a program of provider calls and of waits for an action (`layer`). Waiting for an action polls it at once
and then after each wait, until the first report that is not `running` (`watch`). The pauses between polls start at an
interval that doubles up to a limit; a caller may go away during a pause, which ends the program there and undoes nothing.
-/

namespace VolumeDriver.Provider

/-- How long to wait for an action. Times are in microseconds. -/
structure Policy where
  /-- Wait before the first poll of an attachment, which is known to be slow. -/
  attachDelay : Nat := 1000000
  initialInterval : Nat := 1000000
  maxInterval : Nat := 10000000
  /-- Give up unless what is waited in all stays below this. Without it, wait until the caller goes away. -/
  maxWait : Option Nat := none

/-- The interval after a given one. -/
def Policy.nextInterval (p : Policy) (interval : Nat) : Nat := min (2 * interval) p.maxInterval

/-- A pause is drawn between half an interval and one and a half; this is the least it can be. -/
def leastPause (interval : Nat) : Nat := interval / 2

/-- The clock that waits are measured by. It stands still where time is simulated. -/
inductive Clock where
  | running
  | stopped
  deriving DecidableEq, Repr

/-- What a clock shows of a time that passes. -/
def Clock.shown : Clock → Nat → Nat
  | running, time => time
  | stopped, _ => 0

/-- How far a wait for an action has come: the interval of the next pause, and what the clock shows since the wait began. -/
structure Wait where
  interval : Nat
  elapsed : Nat := 0

def Policy.firstWait (p : Policy) : Wait := { interval := p.initialInterval }

/-- The wait after its next pause. -/
def Policy.nextWait (p : Policy) (clock : Clock) (w : Wait) : Wait where
  interval := p.nextInterval w.interval
  elapsed := w.elapsed + clock.shown (leastPause w.interval)

/-- Whether a policy does not let the next pause begin, since with it what is waited would not stay below the limit. Some time has
always passed besides the pauses, however little, so a pause that just comes up to the limit is one too many. -/
def Policy.givesUp (p : Policy) (w : Wait) : Bool := p.maxWait.any (· ≤ w.elapsed + leastPause w.interval)

/-- What an error of the provider means to a caller of the gateway. `missing` is what it means that something was not found. -/
def translate (missing : Option VolumeError) (e : ProviderError) : VolumeError :=
  match e.code, missing with
  | .notFound, some m => m
  | .uniquenessError, _ => .volumeAlreadyExists
  | .locked, _ => .lockedServer
  | .volumeLimitReached, _ => .attachLimitReached
  | _, _ => .other e.describe

/-- What a gateway call is made of. -/
inductive Task where
  | client (c : ProviderCall)
  /-- Wait before the first poll. -/
  | pause (time : Nat)
  /-- Wait until an action has succeeded or failed. -/
  | await (action : Action)

abbrev Task.Answer : Task → Type
  | client c => Except ProviderError c.Answer
  | pause _ => Unit
  | await _ => Except ProviderError Unit

abbrev tasks : Interface := ⟨Task, Task.Answer⟩

/-- Makes one provider call. -/
def ask (c : ProviderCall) : Program tasks (Except ProviderError c.Answer) := Program.ask (I := tasks) (.client c)

def pauseFor (time : Nat) : Program tasks Unit := Program.ask (I := tasks) (.pause time)

def await (a : Action) : Program tasks (Except ProviderError Unit) := Program.ask (I := tasks) (.await a)

/-- The outcome of a call on a volume: that something is missing means that the volume is. -/
def onVolume {α : Type} : Except ProviderError α → Except VolumeError α
  | .ok a => .ok a
  | .error e => .error (translate (some .volumeNotFound) e)

/-- The outcome of a call that names no volume. -/
def onOther {α : Type} : Except ProviderError α → Except VolumeError α
  | .ok a => .ok a
  | .error e => .error (translate none e)

/-- A volume that must be there. -/
def found : Except ProviderError (Option Volume) → Except VolumeError Volume
  | .ok (some v) => .ok v
  | .ok none => .error .volumeNotFound
  | .error e => .error (translate (some .volumeNotFound) e)

/-- Orders a volume and waits for it. A volume whose making failed is deleted again, whatever comes of that. -/
def create (o : CreateOptions) : Program tasks (Except VolumeError Volume) := do
  match ← ask (.createVolume ⟨o.name, o.minSizeGib, o.location, o.labels⟩) with
  | .error e => pure (.error (translate none e))
  | .ok (v, action) =>
    match ← await action with
    | .ok () => pure (.ok v)
    | .error e =>
      let _ ← ask (.deleteVolume v.id)
      pure (.error (translate none e))

def getById (id : VolumeId) : Program tasks (Except VolumeError Volume) := do
  return found (← ask (.getVolume id))

def getByName (name : String) : Program tasks (Except VolumeError Volume) := do
  return found (← ask (.getVolumeByName name))

/-- Deletes a volume that is detached. -/
def delete (id : VolumeId) : Program tasks (Except VolumeError Unit) := do
  match ← getById id with
  | .error e => pure (.error e)
  | .ok v =>
    if v.attachedServer.isSome then pure (.error .attached)
    else return onVolume (← ask (.deleteVolume id))

/-- Attaches a detached volume to a server that exists. -/
def attach (policy : Policy) (id : VolumeId) (server : ServerId) : Program tasks (Except VolumeError Unit) := do
  match ← getById id with
  | .error e => pure (.error e)
  | .ok v =>
    match ← ask (.serverExists server) with
    | .error e => pure (.error (translate none e))
    | .ok false => pure (.error .serverNotFound)
    | .ok true =>
      if v.attachedServer.isSome then pure (.error .attached)
      else
        match ← ask (.attachVolume id server) with
        | .error e => pure (.error (translate (some .volumeNotFound) e))
        | .ok action =>
          pauseFor policy.attachDelay
          return onVolume (← await action)

/-- Detaches a volume from the server that holds it, which is the named one if one is named. -/
def detach (id : VolumeId) (server : Option ServerId) : Program tasks (Except VolumeError Unit) := do
  match ← getById id with
  | .error e => pure (.error e)
  | .ok v =>
    match v.attachedServer with
    | none => pure (.error .notAttached)
    | some holder =>
      if server.isSome ∧ server ≠ some holder then pure (.error .attached)
      else
        match ← ask (.detachVolume id) with
        | .error e => pure (.error (translate (some .volumeNotFound) e))
        | .ok action => return onVolume (← await action)

/-- Grows a volume. -/
def resize (id : VolumeId) (sizeGib : UInt64) : Program tasks (Except VolumeError Unit) := do
  match ← getById id with
  | .error e => pure (.error e)
  | .ok v =>
    if sizeGib ≤ v.sizeGib then pure (.error .volumeSizeAlreadyReached)
    else
      match ← ask (.resizeVolume id sizeGib) with
      | .error e => pure (.error (translate (some .volumeNotFound) e))
      | .ok action => return onVolume (← await action)

def all : Program tasks (Except VolumeError (List Volume)) := do
  return onOther (← ask .listVolumes)

/-- The program that stands for a gateway call. -/
def layer (policy : Policy) : (c : GatewayCall) → Program tasks (Except VolumeError c.Answer)
  | .create o => create o
  | .getById id => getById id
  | .getByName name => getByName name
  | .delete id => delete id
  | .attach id server => attach policy id server
  | .detach id server => detach id server
  | .resize id sizeGib => resize id sizeGib
  | .all => all

/-- A client, the calls made to it so far, and how long the caller still waits; without a limit it waits for ever. Time is simulated
unless the clock is said to be running. -/
structure Session (σ : Type) where
  client : σ
  calls : List ProviderCall := []
  timeLeft : Option Nat := none
  clock : Clock := .stopped

namespace Session

variable {σ : Type}

/-- Makes a provider call and logs it. -/
def ask (client : ProviderClient σ) (c : ProviderCall) (s : Session σ) : Except ProviderError c.Answer × Session σ :=
  let (r, next) := client.answer c s.client
  (r, { s with client := next, calls := s.calls ++ [c] })

/-- Lets time pass. A caller whose time runs out first has gone away. -/
def pause (time : Nat) (s : Session σ) : Option (Session σ) :=
  match s.timeLeft with
  | none => some s
  | some left => if left < time then none else some { s with timeLeft := some (left - time) }

/-- A pause does not touch the client. -/
theorem client_of_pause {time : Nat} {s t : Session σ} (h : s.pause time = some t) : t.client = s.client := by
  unfold pause at h
  split at h
  · cases h; rfl
  · split at h
    · cases h
    · cases h; rfl

/-- The error of an action that was given up on. -/
def unfinished (id : ActionId) : ProviderError := ⟨.other, "action " ++ toString id ++ " did not finish in time"⟩

/-- Polls an action, pausing after each report that it is running, until the first other report. Nothing is answered to a
caller that went away. -/
def watch (client : ProviderClient σ) (policy : Policy) (id : ActionId) (w : Wait) (s : Session σ) :
    Option (Except ProviderError Unit) × Session σ :=
  match _h : s.ask client (.getAction id) with
  | (.error e, t) => (some (.error e), t)
  | (.ok a, t) =>
    match _hr : a.status with
    | .success => (some (.ok ()), t)
    | .failed e => (some (.error e), t)
    | .running =>
      if policy.givesUp w then (some (.error (unfinished id)), t)
      else
        match _hp : t.pause (leastPause w.interval) with
        | none => (none, t)
        | some u => watch client policy id (policy.nextWait s.clock w) u
termination_by client.patience s.client
decreasing_by
  rw [client_of_pause _hp]
  have h1 := congrArg Prod.fst _h
  have h2 := congrArg (fun p => p.2.client) _h
  simp only [ask] at h1 h2
  rw [← h2]
  exact client.patience_lt id s.client a h1 _hr

/-- Answers a task, unless the caller goes away first. -/
def answer (client : ProviderClient σ) (policy : Policy) : (task : Task) → Session σ → Option task.Answer × Session σ
  | .client c, s => let (r, s) := s.ask client c; (some r, s)
  | .pause time, s =>
    match s.pause time with
    | none => (none, s)
    | some t => (some (), t)
  | .await a, s =>
    match a.status with
    | .success => (some (.ok ()), s)
    | .failed e => (some (.error e), s)
    | .running => s.watch client policy a.id policy.firstWait

/-- Runs a program until it is done or the caller goes away. -/
def run {α : Type} (client : ProviderClient σ) (policy : Policy) : Program tasks α → Session σ → Option α × Session σ
  | .done a, s => (some a, s)
  | .call task next, s =>
    match s.answer client policy task with
    | (none, t) => (none, t)
    | (some r, t) => run client policy (next r) t

end Session

end VolumeDriver.Provider
