import VolumeDriver.Host.Call
import VolumeDriver.Host.Machine

/-!
# A host of real tools

Mounts are made by `mount` and undone by `umount`, and the system keeps the mount table. Where the service manager can give
a command a scope of its own, a mount runs in one, so that what it starts outlives the driver.
-/

namespace VolumeDriver

open Files

structure SystemHost where
  /-- Whether mounts run in scopes. -/
  usesScopes : Bool
  deriving DecidableEq

namespace SystemHost

def askMachine (c : MachineCall) : MachineTask c.Answer :=
  ExceptT.mk do
    match ← Program.ask (I := machine) c with
    | .ok a => return .ok a
    | .error e => return .error (.io e)

def run (c : Command) : MachineTask CommandOutput := EndedProcess.toOutput <$> askMachine (.run c)

/-- The command that tries whether scopes work. -/
def probe (scopeRunner : Path) : Command :=
  ⟨scopeRunner.text, ["--description=cloudvol systemd probe", "--scope", "true"], none⟩

/-- Finds out how the host mounts. If scopes cannot be tried, they are not used. -/
def detect : MachineTask SystemHost := do
  match ← askMachine (.find MountCommand.scopeProgram) with
  | none => return ⟨false⟩
  | some scopeRunner => return ⟨(← run (probe scopeRunner)).isSuccess⟩

/-- One command that mounts. -/
def mountCommand (h : SystemHost) (m : MountRequest) : MountCommand :=
  let c := MountCommand.ofRequest m
  if h.usesScopes then c.inScope MountCommand.scopeProgram m.target else c

/-- The commands of a mount, to be run in order: two for a bind mount, one for any other. -/
def mountCommands (h : SystemHost) (m : MountRequest) : List MountCommand :=
  let b := BindOptions.ofOptions m.options m.sensitive
  if b.isBind then
    [h.mountCommand { m with options := b.bind, sensitive := b.sensitive },
     h.mountCommand { m with options := b.remount, sensitive := b.sensitive }]
  else [h.mountCommand m]

/-- Runs a command that mounts. Its failure is told without the sensitive options. -/
def runMount (c : MountCommand) : MachineTask Unit := do
  let o ← run c.command
  unless o.isSuccess do throw (.commandFailed (MountCommand.mountProgram ++ " " ++ c.told) o)

/-- Runs commands that mount, up to the first that fails. -/
def runMounts : List MountCommand → MachineTask Unit
  | [] => pure ()
  | c :: cs => do
    runMount c
    runMounts cs

def mount (h : SystemHost) (m : MountRequest) : MachineTask Unit := runMounts (h.mountCommands m)

/-- A process that had to succeed. -/
def checked (c : Command) (p : EndedProcess) : MachineTask Unit :=
  if p.exit = .code 0 then pure ()
  else throw (.other ("command " ++ Trace.list Text.quote (c.program :: c.args) ++ " exited with " ++ p.exit.describe))

/-- The command that unmounts a path. -/
def unmountCommand (flags : List String) (target : Path) : Command := ⟨"umount", flags ++ [target.text], none⟩

def unmount (target : Path) (patience : Option Nat) : MachineTask Unit := do
  let c := unmountCommand [] target
  match patience with
  | none => checked c (← askMachine (.run c))
  | some milliseconds =>
    match ← askMachine (.runFor milliseconds c) with
    | some p => checked c p
    | none =>
      let forced := unmountCommand ["-f"] target
      checked forced (← askMachine (.run forced))

def tablePath : Path := ⟨"/proc/mounts"⟩

/-- How often a file is read again until two readings agree. -/
def readAttempts : Nat := 3

/-- Reads a file again until two readings agree. It may change while it is read. -/
def readAgain (p : Path) (before : ByteArray) : Nat → MachineTask ByteArray
  | 0 => throw (.other ("could not get consistent content of '" ++ p.text ++ "' after " ++ toString readAttempts ++
      " attempts"))
  | attempts + 1 => do
    let now ← askMachine (.read p)
    if now = before then return now else readAgain p now attempts

def readTable (p : Path) : MachineTask (List MountEntry) := do
  let before ← askMachine (.read p)
  let content ← readAgain p before readAttempts
  match MountTable.parseBytes content with
  | .ok entries => return entries
  | .error e => throw e

/-- Whether a path is on the device that its parent is on. -/
def looksUnmounted (p : Path) : MachineTask Bool := do
  let device ← askMachine (.device p)
  match p.parent with
  | none => throw (.other "file does not have parent")
  | some above => return decide (device = (← askMachine (.device above)))

/-- The program that stands for a call of the host. -/
def layer (h : SystemHost) : (c : HostCall) → Program machine (Except MountError c.Answer)
  | .file c => (askMachine (.file c)).run
  | .run c => (run c).run
  | .mount m => (h.mount m).run
  | .unmount target patience => (unmount target patience).run
  | .entries => (readTable tablePath).run
  | .looksUnmounted p => (looksUnmounted p).run

end SystemHost

end VolumeDriver
