import VolumeDriver.Files.Call
import VolumeDriver.Mount.Options
import VolumeDriver.Mount.Table
import VolumeDriver.Program

/-!
# What a node asks of its host

Files, helper tools, mounts and the mount table. All that a node does is a task of such calls (`HostTask`), which a host in memory
and a host of real tools answer alike.
-/

namespace VolumeDriver

open Files

inductive HostCall where
  | file (c : FileCall)
  /-- Runs a helper tool to its end. -/
  | run (c : Command)
  | mount (m : MountRequest)
  /-- Unmounts; if that takes longer than so many milliseconds, by force. -/
  | unmount (target : Path) (patience : Option Nat)
  /-- The mount table. -/
  | entries
  /-- A quick look whether nothing is mounted at a path that exists. It may miss bind mounts. -/
  | looksUnmounted (p : Path)
  deriving DecidableEq

/-- What a successful call answers. -/
abbrev HostCall.Answer : HostCall → Type
  | file c => c.Answer
  | run _ => CommandOutput
  | mount _ | unmount _ _ => Unit
  | entries => List MountEntry
  | looksUnmounted _ => Bool

abbrev host : Interface := ⟨HostCall, fun c => Except MountError c.Answer⟩

/-- A computation that asks things of the host and may fail. -/
abbrev HostTask := ExceptT MountError (Program host)

/-- The task that makes one call. -/
def askHost (c : HostCall) : HostTask c.Answer := ExceptT.mk (Program.ask (I := host) c)

def askFiles (c : FileCall) : HostTask c.Answer := askHost (.file c)

namespace HostTask

variable {α : Type}

/-- A task that cannot fail and answers how another ended. -/
def attempt (t : HostTask α) : HostTask (Except MountError α) := ExceptT.mk (Except.ok <$> t.run)

/-- Passes an outcome on. -/
def ofExcept (r : Except MountError α) : HostTask α := ExceptT.mk (pure r)

variable {σ : Type}

/-- A task of one call is answered as the call is. -/
@[simp]
theorem run_askHost (answer : (c : HostCall) → σ → Except MountError c.Answer × σ) (c : HostCall) (s : σ) :
    Program.run (I := host) answer (askHost c).run s = answer c s :=
  rfl

/-- A result that is there already is answered without a call. -/
@[simp]
theorem run_ofExcept (answer : (c : HostCall) → σ → Except MountError c.Answer × σ) (r : Except MountError α) (s : σ) :
    Program.run (I := host) answer (ofExcept r).run s = (r, s) :=
  rfl

/-- An attempt answers how the task ended, and never fails itself. -/
theorem run_attempt (answer : (c : HostCall) → σ → Except MountError c.Answer × σ) (t : HostTask α) (s : σ) :
    Program.run (I := host) answer t.attempt.run s =
      (.ok (Program.run (I := host) answer t.run s).1, (Program.run (I := host) answer t.run s).2) :=
  Program.run_bind answer t.run _ s

end HostTask

end VolumeDriver
