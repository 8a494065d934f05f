import VolumeDriver.Disk
import VolumeDriver.Encryption
import VolumeDriver.Mount.Point
import VolumeDriver.Text.ShellWords

/-!
# Making a device usable at a path

A device, or its mapping if it is encrypted, is mounted straight at the target path. An attempt may be cut short anywhere and
is then made again, so each step first looks whether it was done before.
-/

namespace VolumeDriver

open Files

/-- Why a device cannot be published, withdrawn or grown. -/
inductive PublishError where
  | mount (e : MountError)
  /-- The format options have a quote that is not closed. -/
  | formatOptions
  /-- The device would have to be encrypted, but is to be read only. -/
  | blankReadOnly (device : Path)
  | notEncrypted (device : Path) (format : String)
  | notADevice (device : Path)
  | notMounted (path : Path)
  deriving DecidableEq, Repr

def PublishError.message : PublishError → String
  | mount e => e.message
  | formatOptions => "invalid filesystem format options: missing closing quote"
  | blankReadOnly device => "cannot initialize encryption on " ++ device.text ++ " in read-only mode"
  | notEncrypted device format => device.text ++ " is formatted as " ++ format ++ ", expected an encrypted volume"
  | notADevice device => device.text ++ " is not a device path"
  | notMounted path => path.text ++ " is not mounted"

/-- How a device is published. -/
structure PublishOptions where
  /-- The device itself, bound to a file, instead of a filesystem on it. -/
  block : Bool := false
  /-- Empty if the node is to choose. -/
  fsType : String := ""
  readonly : Bool := false
  flags : List String := []
  /-- An empty passphrase is none. -/
  passphrase : Option String := none
  /-- More arguments for making a filesystem, quoted as for a shell. -/
  formatOptions : Option String := none
  deriving DecidableEq, Repr

namespace PublishOptions

def trace (o : PublishOptions) : String :=
  Trace.record "MountOpts"
    [("block_volume", Trace.bool o.block), ("fs_type", Text.quote o.fsType), ("readonly", Trace.bool o.readonly),
     ("additional_flags", Trace.list Text.quote o.flags),
     ("encryption_passphrase", Trace.option (fun _ => Trace.redacted) o.passphrase),
     ("fs_format_options", Trace.option Text.quote o.formatOptions)]

/-- Options that keep a new XFS filesystem fit for older systems. -/
def xfsFormatOptions : List String := ["-c", "options=/usr/share/xfsprogs/mkfs/lts_5.15.conf"]

/-- The arguments for making a filesystem. -/
def formatArguments (o : PublishOptions) : Except PublishError (List String) :=
  match Text.shellWords (o.formatOptions.getD "") with
  | none => .error .formatOptions
  | some words => .ok (if words.isEmpty && o.fsType = "xfs" then xfsFormatOptions else words)

/-- The passphrase of an encrypted device. -/
def secret (o : PublishOptions) : Option String := o.passphrase.filter (!·.isEmpty)

def mountOptions (o : PublishOptions) : List String :=
  (if o.block then [BindOptions.bindName] else []) ++ (if o.readonly then [Disk.readOnlyOption] else []) ++ o.flags

end PublishOptions

namespace Publication

/-- A task of publishing. -/
abbrev Task := ExceptT PublishError (Program host)

/-- A task of the host, whose failures are those of publishing. -/
def onHost {α : Type} (t : HostTask α) : Task α :=
  ExceptT.mk do
    match ← t.run with
    | .ok a => return .ok a
    | .error e => return .error (.mount e)

/-- Makes the target: a file to bind a device to, or a directory that its owner and group alone may enter. -/
def makeTarget (target : Path) (block : Bool) : HostTask Unit := do
  if block then
    if let some above := target.parent then askFiles (.makeDirectories 0o777 above)
    askFiles (.createFile target)
  else askFiles (.makeDirectories 0o750 target)

/-- Has a free target; answers false if something is mounted there. -/
def prepareTarget (target : Path) (block : Bool) : HostTask Bool := do
  match ← (MountPoint.isFree target).attempt with
  | .ok free => return free
  | .error e =>
    if e.isNotFound then
      makeTarget target block
      return true
    else throw e

/-- Opens an encrypted device, and encrypts it first if it is blank and may be written to. Answers the path of its mapping. -/
def openEncrypted (device : Path) (passphrase : String) (readonly : Bool) : Task Path := do
  match Encryption.mappingName device with
  | none => throw (.notADevice device)
  | some name =>
    match (← onHost (Disk.format device)).name? with
    | none => if readonly then throw (.blankReadOnly device) else onHost (Encryption.format device passphrase)
    | some format => if format ≠ Encryption.formatName then throw (.notEncrypted device format)
    onHost (Encryption.openMapping device name passphrase)
    return Encryption.mappingPath name

/-- The device to be mounted. -/
def source (device : Path) (o : PublishOptions) : Task Path :=
  match o.secret with
  | some passphrase => openEncrypted device passphrase o.readonly
  | none => pure device

/-- Mounts a device, or a filesystem on it, at a target. -/
def mountAt (source target : Path) (o : PublishOptions) (formatArguments : List String) : HostTask Unit :=
  if o.block then askHost (.mount ⟨some source, target, "", o.mountOptions, []⟩)
  else Disk.mountFormatted source target o.fsType o.mountOptions formatArguments

/-- Makes a device available at a target. A target at which something is mounted is left as it is. -/
def publish (device target : Path) (o : PublishOptions) : Task Unit := do
  match o.formatArguments with
  | .error e => throw e
  | .ok formatArguments =>
    if ← onHost (prepareTarget target o.block) then
      let source ← source device o
      onHost (mountAt source target o formatArguments)

/-- Unmounts and removes a target, then closes the mapping of the device that was mounted there. -/
def unpublish (target : Path) : Task Unit := do
  let found ← onHost (MountPoint.deviceAt target)
  onHost (MountPoint.cleanUp true target)
  match found.bind fun (device, _) => Encryption.mappingName device with
  | some name => onHost (Encryption.closeMapping name)
  | none => pure ()

/-- The device whose filesystem is to grow, which is the mapping, grown before, of a device that has an active one. -/
def grownDevice (device : Path) : HostTask Path := do
  match Encryption.mappingName device with
  | none => return device
  | some name =>
    if ← Encryption.isActive name then
      Encryption.growMapping name
      return Encryption.mappingPath name
    else return device

/-- Grows the filesystem mounted at a path to the size of its device. -/
def grow (path : Path) : Task Unit := do
  match ← onHost (MountPoint.deviceAt path) with
  | none => throw (.notMounted path)
  | some (device, _) =>
    let device ← onHost (grownDevice device)
    onHost (Disk.grow device path)

/-- Whether anything is at a path. -/
def pathExists (path : Path) : Program host Bool := do
  match ← (askFiles (.stat path)).run with
  | .ok _ => return true
  | .error _ => return false

end Publication

/-- How full a filesystem is. -/
structure FilesystemUsage where
  totalBytes : UInt64
  availableBytes : UInt64
  usedBytes : UInt64
  totalInodes : UInt64
  availableInodes : UInt64
  usedInodes : UInt64
  deriving DecidableEq, Repr

namespace FilesystemUsage

/-- What is left of a number when another is taken away, and zero at least. -/
def less (a b : UInt64) : UInt64 := if b ≤ a then a - b else 0

/-- Space that is free but not for every user counts as neither available nor used. -/
def ofCounts (c : FilesystemCounts) : FilesystemUsage where
  totalBytes := c.blocks * c.blockSize
  availableBytes := c.blocksAvailable * c.blockSize
  usedBytes := less c.blocks c.blocksFree * c.blockSize
  totalInodes := c.files
  availableInodes := c.filesFree
  usedInodes := less c.files c.filesFree

end FilesystemUsage

/-- How full the filesystem of a path is. -/
def Publication.usage (path : Path) : HostTask FilesystemUsage :=
  FilesystemUsage.ofCounts <$> askFiles (.counts path)

end VolumeDriver
