import VolumeDriver.Files.Error
import VolumeDriver.Tool.Command

/-!
# Failures of mounting

What can go wrong with devices, filesystems and mounts, and how it is told.
-/

namespace VolumeDriver

open Files

inductive MountError where
  /-- The device holds a partition table, and no filesystem to be mounted. -/
  | partitioned (device : Path)
  | otherFilesystem (device : Path) (found wanted : String)
  /-- The device would have to be formatted, but is to be read only. -/
  | blankReadOnly (device : Path)
  | formatFailed (command : Command) (output : CommandOutput)
  | probeFailed (command : Command) (output : CommandOutput)
  | growFailed (command : Command) (output : CommandOutput)
  | unsupportedGrowth (filesystem : String)
  /-- The command is told in words of its own, which need not be its command line. -/
  | commandFailed (command : String) (output : CommandOutput)
  | io (e : IoError)
  deriving DecidableEq, Repr

namespace MountError

/-- A failure told in words. -/
def other (message : String) : MountError := io (.other message)

/-- A command line, how it ended and what it wrote. -/
def report (command : Command) (output : CommandOutput) : String :=
  command.render ++ ": exit code " ++ output.renderCode ++ ": " ++ output.output

def message : MountError → String
  | partitioned device =>
    "File system mismatch: " ++ device.text ++ " contains a partition table and no filesystem"
  | otherFilesystem device found wanted =>
    "File system mismatch: " ++ device.text ++ " is formatted as " ++ found ++ ", requested " ++ wanted
  | blankReadOnly device => "Unformatted read only: cannot format " ++ device.text ++ " in read-only mode"
  | formatFailed command output => "Format failed: " ++ report command output
  | probeFailed command output => "Get disk format failed: " ++ report command output
  | growFailed command output => "Resize failed: " ++ report command output
  | unsupportedGrowth filesystem => "Resize of filesystem " ++ filesystem ++ " is not supported"
  | commandFailed command output =>
    "command '" ++ command ++ "' failed with exit code " ++ output.renderCode ++ ": " ++ output.output
  | io e => e.message

def isNotFound : MountError → Bool
  | io e => e.isNotFound
  | _ => false

def isPermission : MountError → Bool
  | io e => e.isPermission
  | _ => false

def isCorruptedMount : MountError → Bool
  | io (.os e) => e.isCorruptedMount
  | _ => false

end MountError

/-- The output of a command that has to succeed. -/
def CommandOutput.check (o : CommandOutput) (c : Command) : Except MountError CommandOutput :=
  if o.isSuccess then .ok o else .error (.commandFailed c.render o)

end VolumeDriver
