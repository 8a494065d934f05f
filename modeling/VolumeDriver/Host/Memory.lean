import VolumeDriver.Host.Call
import VolumeDriver.Tool.Toolbox

/-!
# A host in memory

Mounts are entries of a table and nothing else; files are a tree; helper tools are any state that answers commands. What the host
was made to do is logged in order: mounts, unmounts that did not fail, and commands with their outcome.
-/

namespace VolumeDriver

open Files

/-- What a host was made to do. -/
inductive HostEvent where
  | mounted (source target : Path) (fsType : String)
  | unmounted (target : Path)
  | ran (command : Command) (output : CommandOutput)
  deriving DecidableEq, Repr

/-- The command that was run, if one was. -/
def HostEvent.command? : HostEvent → Option Command
  | ran c _ => some c
  | _ => none

structure MemoryHost (τ : Type) where
  tools : τ
  files : FileTree := {}
  entries : List MountEntry := []
  /-- Paths that cannot be unmounted, and why; the first of several for a path counts. -/
  unmountFailures : List (Path × IoError) := []
  log : List HostEvent := []

namespace MemoryHost

variable {τ : Type}

/-- A path as the mount table has it; one that cannot be resolved, as it is. -/
def resolve (s : MemoryHost τ) (p : Path) : Path :=
  match s.files.canonical p with
  | .ok resolved => resolved
  | .error _ => p

/-- Makes every unmount of a resolved path fail. -/
def failUnmount (s : MemoryHost τ) (p : Path) (e : IoError) : MemoryHost τ :=
  { s with unmountFailures := (p, e) :: s.unmountFailures }

/-- The device that is listed for a mount. For a bind mount of a mounted path it is the device mounted there. -/
def listedDevice (s : MemoryHost τ) (source : Path) (options : List String) : Path :=
  if BindOptions.bindName ∈ options then
    ((s.entries.find? fun e => e.path.same source).map (·.device)).getD source
  else source

def mount (s : MemoryHost τ) (m : MountRequest) : Except MountError Unit × MemoryHost τ :=
  match m.source with
  | none => (.error (.other "missing required source in fake mounter"), s)
  | some source =>
    let device := s.listedDevice source m.options
    let target := s.resolve m.target
    (.ok (), { s with
      entries := s.entries ++ [{ device := device, path := target, fsType := m.fsType, options := m.options ++ m.sensitive }]
      log := s.log ++ [.mounted device target m.fsType] })

/-- Takes the first entry at a path off the table. To unmount what is not mounted is no failure. -/
def unmount (s : MemoryHost τ) (target : Path) : Except MountError Unit × MemoryHost τ :=
  let target := s.resolve target
  match s.unmountFailures.find? fun f => f.1.same target with
  | some (_, e) => (.error (.io e), s)
  | none =>
    (.ok (), { s with entries := MountTable.removeFirst target s.entries, log := s.log ++ [.unmounted target] })

def looksUnmounted (s : MemoryHost τ) (p : Path) : Except MountError Bool :=
  match s.files.stat p with
  | .error e => .error (.io e)
  | .ok _ => .ok (!s.entries.any fun e => e.path.same (s.resolve p))

def run (tools : Toolbox τ) (s : MemoryHost τ) (c : Command) : CommandOutput × MemoryHost τ :=
  let (o, t) := tools.run c s.tools
  (o, { s with tools := t, log := s.log ++ [.ran c o] })

/-- Answers a call. -/
def answer (tools : Toolbox τ) : (c : HostCall) → MemoryHost τ → Except MountError c.Answer × MemoryHost τ
  | .file c, s =>
    let (r, files) := s.files.answer c
    (r.mapError .io, { s with files := files })
  | .run c, s =>
    let (o, s) := s.run tools c
    (.ok o, s)
  | .mount m, s => s.mount m
  | .unmount target _, s => s.unmount target
  | .entries, s => (.ok s.entries, s)
  | .looksUnmounted p, s => (s.looksUnmounted p, s)

end MemoryHost

end VolumeDriver
