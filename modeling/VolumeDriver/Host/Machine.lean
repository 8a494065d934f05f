import VolumeDriver.Files.Call
import VolumeDriver.Program
import VolumeDriver.Text.Utf8
import VolumeDriver.Mount.Error

/-!
# What a host of real tools stands on

A machine has files, some of which can be read, and runs programs. A host of real tools is made of such calls.
-/

namespace VolumeDriver

open Files

/-- How a process ended. -/
inductive ProcessExit where
  | code (n : Int)
  | signal (n : Nat)
  deriving DecidableEq, Repr

def ProcessExit.describe : ProcessExit → String
  | code n => "code " ++ toString n
  | signal n => "<signal " ++ toString n ++ ">"

/-- A process that ended: how, and what it wrote. -/
structure EndedProcess where
  exit : ProcessExit
  output : ByteArray

/-- The outcome of a process as that of a command. -/
def EndedProcess.toOutput (p : EndedProcess) : CommandOutput where
  code := match p.exit with
    | .code n => some n
    | .signal _ => none
  output := Text.decodeLossy p.output

inductive MachineCall where
  | file (c : FileCall)
  | read (p : Path)
  /-- The number of the device that a path is on. -/
  | device (p : Path)
  /-- Where a program is found. -/
  | find (program : String)
  | run (c : Command)
  /-- Runs a command for so many milliseconds at most, then kills it. -/
  | runFor (milliseconds : Nat) (c : Command)
  deriving DecidableEq

/-- What a successful call answers. A process that had to be killed has no outcome. -/
abbrev MachineCall.Answer : MachineCall → Type
  | file c => c.Answer
  | read _ => ByteArray
  | device _ => Nat
  | find _ => Option Path
  | run _ => EndedProcess
  | runFor _ _ => Option EndedProcess

abbrev machine : Interface := ⟨MachineCall, fun c => Except IoError c.Answer⟩

/-- A computation on a machine that may fail. -/
abbrev MachineTask := ExceptT MountError (Program machine)

end VolumeDriver
