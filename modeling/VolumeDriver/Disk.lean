import VolumeDriver.Host.Call

/-!
# Devices and the filesystems on them

What a device holds is probed with `blkid` before anything is written to it: only a device that holds nothing is formatted
(`Disk.mountFormatted`).
-/

namespace VolumeDriver

/-- What a device holds. -/
inductive DiskFormat where
  | blank
  /-- A partition table, and nothing else that is known. -/
  | partitioned
  | filesystem (name : String)
  deriving DecidableEq, Repr

namespace DiskFormat

/-- What a device with a partition table is said to hold. -/
def partitionedName : String := "unknown data, probably partitions"

/-- What a device is said to hold; a blank one, nothing. -/
def name? : DiskFormat → Option String
  | blank => none
  | partitioned => some partitionedName
  | filesystem name => some name

/-- The value of a field in a report of fields `KEY=value`, one in a line; of several the last counts. An empty value is none. -/
def lastValue (key : String) (lines : List (List Char)) : Option (List Char) :=
  (lines.filterMap fun line =>
    match Text.afterChars (key.toList ++ ['=']) (Text.trimChars line) with
    | some (c :: cs) => some (c :: cs)
    | _ => none).getLast?

/-- What a report says that a device holds. A filesystem counts before a partition table. -/
def ofReport (report : String) : DiskFormat :=
  let lines := Text.linesOf report.toList
  match lastValue "TYPE" lines, lastValue "PTTYPE" lines with
  | some name, _ => if String.ofList name = partitionedName then partitioned else filesystem (String.ofList name)
  | none, some _ => partitioned
  | none, none => blank

end DiskFormat

namespace Disk

/-- The probe of a device. -/
def probe (device : Path) : Command :=
  ⟨"blkid", ["-p", "-s", "TYPE", "-s", "PTTYPE", "-o", "export", device.text], none⟩

/-- The code with which the probe ends when it finds nothing. -/
def nothingFound : Int := 2

/-- What the outcome of a probe says. -/
def formatOf (device : Path) (o : CommandOutput) : Except MountError DiskFormat :=
  if o.code = some 0 then .ok (.ofReport o.output)
  else if o.code = some nothingFound then .ok .blank
  else .error (.probeFailed (probe device) o)

/-- What a device holds. -/
def format (device : Path) : HostTask DiskFormat := do
  HostTask.ofExcept (formatOf device (← askHost (.run (probe device))))

/-- The command that makes a filesystem. -/
def maker (device : Path) (fsType : String) (options : List String) : Command :=
  ⟨"mkfs." ++ fsType,
    (if fsType = "ext3" ∨ fsType = "ext4" then ["-F", "-m0"] else []) ++ options ++ [device.text], none⟩

def makeFilesystem (device : Path) (fsType : String) (options : List String) : HostTask Unit := do
  let c := maker device fsType options
  let o ← askHost (.run c)
  unless o.isSuccess do throw (.formatFailed c o)

/-- The filesystem of a volume that names none. -/
def defaultFilesystem : String := "ext4"

/-- The option that forbids writing. -/
def readOnlyOption : String := "ro"

/-- Mounts a device, and first makes a filesystem on it if it is blank and may be written to. A device that holds anything else
than the filesystem asked for is left alone. -/
def mountFormatted (source target : Path) (fsType : String) (options formatOptions : List String) : HostTask Unit := do
  let fsType := if fsType.isEmpty then defaultFilesystem else fsType
  match ← format source with
  | .blank =>
    if readOnlyOption ∈ options then throw (.blankReadOnly source)
    else makeFilesystem source fsType formatOptions
  | .partitioned => throw (.partitioned source)
  | .filesystem name => if name ≠ fsType then throw (.otherFilesystem source name fsType)
  askHost (.mount ⟨some source, target, fsType, options ++ ["defaults"], []⟩)

/-- The command that grows a mounted filesystem to the size of its device, if there is one. -/
def grower (device mountPath : Path) (fsType : String) : Option Command :=
  if fsType = "ext3" ∨ fsType = "ext4" then some ⟨"resize2fs", [device.text], none⟩
  else if fsType = "xfs" then some ⟨"xfs_growfs", ["-d", mountPath.text], none⟩
  else if fsType = "btrfs" then some ⟨"btrfs", ["filesystem", "resize", "max", mountPath.text], none⟩
  else none

/-- Grows the filesystem of a device that is mounted at a path. -/
def grow (device mountPath : Path) : HostTask Unit := do
  let fsType := (← format device).name?.getD ""
  match grower device mountPath fsType with
  | none => throw (.unsupportedGrowth fsType)
  | some c =>
    let o ← askHost (.run c)
    unless o.isSuccess do throw (.growFailed c o)

end Disk

end VolumeDriver
