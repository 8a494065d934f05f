import Mathlib.Logic.Function.Basic
import VolumeDriver.Encryption
import VolumeDriver.Proofs.Disk
import VolumeDriver.Tool.Toolbox

/-!
# Tools that keep devices

A device is blank, is encrypted and shows a second device to who opens it, or carries a filesystem. The tools probe it, encrypt
it, open it as a mapping and make filesystems on it (`Devices.act`). Commands name a device by a path: one under the directory of
mappings is that of the device inside the one that the mapping was opened on (`Devices.locate`).
-/

namespace VolumeDriver

inductive Device where
  | raw (number : Nat)
  /-- What an encrypted device shows once it is open. -/
  | inside (outer : Device)
  deriving DecidableEq

/-- What a device holds. -/
inductive Contents where
  | blank
  | encrypted
  | filesystem (type : String)
  deriving DecidableEq

/-- What a probe says. -/
def Contents.report : Contents → CommandOutput
  | blank => ⟨some Disk.nothingFound, ""⟩
  | encrypted => .success (DiskFormat.typeReport Encryption.formatName)
  | filesystem type => .success (DiskFormat.typeReport type)

structure Devices where
  /-- The device that a path names, unless it is that of an active mapping. -/
  number : Path → Nat
  contents : Device → Contents
  /-- The encrypted device that a mapping was opened on; none if it is not active. -/
  active : String → Option Device

/-- The mapping that a path is the path of. -/
def Path.mapping (p : Path) : Option String :=
  if p.components.dropLast = Encryption.mappingDirectory.components then p.fileName else none

/-- The last argument as the path of a device. -/
def Command.device (c : Command) : Path := ⟨c.args.getLast?.getD ""⟩

namespace Encryption

variable {device : Path} {name : String}

/-- A mapping is named after the last component of its device. -/
theorem last_of_mappingName (h : mappingName device = some name) : device.components.getLast? = some (.name name.toList) := by
  unfold mappingName Path.fileName at h
  split at h
  · rename_i cs hlast
    rw [← Option.some.inj h, String.toList_ofList]
    exact hlast
  · nomatch h

/-- The name of a mapping is put below the directory of mappings. -/
theorem text_mappingPath (h : mappingName device = some name) : (mappingPath name).text = "/dev/mapper/" ++ name := by
  obtain ⟨hslash, _⟩ := Path.of_name_mem_components (List.mem_of_getLast? (last_of_mappingName h))
  have hrelative : (⟨name⟩ : Path).isAbsolute = false := by
    rw [Path.isAbsolute, Path.chars, decide_eq_false_iff_not]
    exact fun hhead => hslash (List.mem_of_head? hhead)
  have hdirectory : ¬ (mappingDirectory.text.isEmpty = true ∨ mappingDirectory.chars.getLast? = some '/') := by decide
  rw [mappingPath, Path.join, hrelative, if_neg Bool.false_ne_true, if_neg hdirectory]
  rfl

/-- The path of a mapping is its name in the directory of mappings. -/
theorem components_mappingPath (h : mappingName device = some name) :
    (mappingPath name).components = mappingDirectory.components ++ [.name name.toList] := by
  obtain ⟨hslash, hpiece⟩ := Path.of_name_mem_components (List.mem_of_getLast? (last_of_mappingName h))
  have hchars : (mappingPath name).chars = "/dev/mapper".toList ++ '/' :: name.toList := by
    rw [Path.chars, text_mappingPath h]
    simp [String.toList_append]
  rw [Path.components, hchars]
  exact Path.componentsOf_append (by decide) hslash hpiece

/-- A mapping has its own name. -/
theorem mappingName_mappingPath (h : mappingName device = some name) : mappingName (mappingPath name) = some name := by
  rw [mappingName, Path.fileName, components_mappingPath h, List.getLast?_concat]
  exact congrArg some String.ofList_toList

end Encryption

namespace Devices

def locate (d : Devices) (p : Path) : Device :=
  match p.mapping.bind d.active with
  | some outer => .inside outer
  | none => .raw (d.number p)

def write (d : Devices) (device : Device) (c : Contents) : Devices :=
  { d with contents := Function.update d.contents device c }

def setMapping (d : Devices) (name : String) (outer : Option Device) : Devices :=
  { d with active := Function.update d.active name outer }

/-- What the encryption program does. -/
def encryption (d : Devices) : List String → CommandOutput × Devices
  | ["status", name] => (⟨some (if (d.active name).isSome then 0 else Encryption.inactive), ""⟩, d)
  | ["luksFormat", _, _, _, device] =>
    let outer := d.locate ⟨device⟩
    (.success "", (d.write outer .encrypted).write (.inside outer) .blank)
  | ["luksOpen", _, device, name] => (.success "", d.setMapping name (some (d.locate ⟨device⟩)))
  | ["luksClose", name] => (.success "", d.setMapping name none)
  | _ => (.success "", d)

/-- What a command does. `mkfs.` and the name of a filesystem make that filesystem. -/
def act (c : Command) (d : Devices) : CommandOutput × Devices :=
  if c.program = "blkid" then ((d.contents (d.locate c.device)).report, d)
  else if c.program = Encryption.program then d.encryption c.args
  else
    match Text.afterChars "mkfs.".toList c.program.toList with
    | some type => (.success "", d.write (d.locate c.device) (.filesystem (String.ofList type)))
    | none => (.success "", d)

def toolbox : Toolbox Devices := ⟨act⟩

/-- The codes that a command ends with to say something. With any other it failed. -/
def meaningful (c : Command) : List Int :=
  if c.program = "blkid" then [0, Disk.nothingFound]
  else if c.program = Encryption.program ∧ c.args.head? = some "status" then [0, Encryption.inactive]
  else [0]

theorem contents_write (d : Devices) (device : Device) (c : Contents) : (d.write device c).contents device = c :=
  Function.update_self ..

/-- What is written to one device leaves all others as they are. -/
theorem contents_write_of_ne {device other : Device} (h : other ≠ device) (d : Devices) (c : Contents) :
    (d.write device c).contents other = d.contents other := Function.update_of_ne h ..

theorem active_setMapping (d : Devices) (name : String) (outer : Option Device) : (d.setMapping name outer).active name = outer :=
  Function.update_self ..

/-! ## Commands -/

@[simp]
theorem act_probe (device : Path) (d : Devices) : act (Disk.probe device) d = ((d.contents (d.locate device)).report, d) := rfl

@[simp]
theorem act_status (name : String) (d : Devices) :
    act (Encryption.statusCommand name) d = (⟨some (if (d.active name).isSome then 0 else Encryption.inactive), ""⟩, d) := rfl

/-- An encrypted device is blank inside. -/
@[simp]
theorem act_format (device : Path) (passphrase : String) (d : Devices) :
    act (Encryption.formatCommand device passphrase) d =
      (.success "", (d.write (d.locate device) .encrypted).write (.inside (d.locate device)) .blank) := rfl

@[simp]
theorem act_open (device : Path) (name passphrase : String) (d : Devices) :
    act (Encryption.openCommand device name passphrase) d = (.success "", d.setMapping name (some (d.locate device))) := rfl

/-- The program that makes a filesystem is neither the probe nor the encryption program. -/
theorem maker_program (device : Path) (fsType : String) (options : List String) :
    Text.afterChars "mkfs.".toList (Disk.maker device fsType options).program.toList = some fsType.toList ∧
      (Disk.maker device fsType options).program ≠ "blkid" ∧
      (Disk.maker device fsType options).program ≠ Encryption.program := by
  have hprogram : (Disk.maker device fsType options).program.toList = "mkfs.".toList ++ fsType.toList := String.toList_append
  refine ⟨Text.afterChars_eq_some_iff.2 hprogram, ?_, ?_⟩
  · intro h
    rw [h] at hprogram
    simp at hprogram
  · intro h
    rw [h] at hprogram
    simp [Encryption.program] at hprogram

/-- A device holds the filesystem that was made on it. -/
@[simp]
theorem act_maker (device : Path) (fsType : String) (options : List String) (d : Devices) :
    act (Disk.maker device fsType options) d = (.success "", d.write (d.locate device) (.filesystem fsType)) := by
  obtain ⟨hafter, hprobe, hencryption⟩ := maker_program device fsType options
  have hdevice : (Disk.maker device fsType options).device = device := by simp [Command.device, Disk.maker]
  rw [act, if_neg hprobe, if_neg hencryption, hafter, hdevice]
  dsimp only
  rw [String.ofList_toList]

@[simp]
theorem meaningful_probe (device : Path) : meaningful (Disk.probe device) = [0, Disk.nothingFound] := rfl

@[simp]
theorem meaningful_status (name : String) : meaningful (Encryption.statusCommand name) = [0, Encryption.inactive] := rfl

@[simp]
theorem meaningful_maker (device : Path) (fsType : String) (options : List String) :
    meaningful (Disk.maker device fsType options) = [0] := by
  obtain ⟨_, hprobe, hencryption⟩ := maker_program device fsType options
  rw [meaningful, if_neg hprobe, if_neg (fun h => hencryption h.1)]

/-! ## Paths of devices -/

@[simp]
theorem locate_write (d : Devices) (device : Device) (c : Contents) (p : Path) : (d.write device c).locate p = d.locate p := rfl

/-- A device that is no mapping is found by its number alone. -/
theorem locate_of_outside {p : Path} (h : p.mapping = none) (d : Devices) : d.locate p = .raw (d.number p) := by
  rw [locate, h]
  rfl

/-- An active mapping is the device inside the one that it was opened on. -/
theorem locate_of_active {p : Path} {name : String} {d : Devices} (h : p.mapping = some name) (hactive : (d.active name).isSome) :
    ∃ outer, d.locate p = .inside outer := by
  obtain ⟨outer, houter⟩ := Option.isSome_iff_exists.1 hactive
  refine ⟨outer, ?_⟩
  rw [locate, h, Option.bind_some, houter]

/-- The path of the mapping of a device leads to the mapping. -/
theorem mapping_mappingPath {device : Path} {name : String} (h : Encryption.mappingName device = some name) :
    (Encryption.mappingPath name).mapping = some name := by
  rw [Path.mapping, Encryption.components_mappingPath h, List.dropLast_concat, if_pos rfl]
  exact Encryption.mappingName_mappingPath h

/-! ## What a device is said to hold -/

/-- A probe of a device says that it carries this. An encrypted device is said to carry `Encryption.formatName`. -/
def Shows (d : Devices) (p : Path) (type : String) : Prop :=
  Disk.formatOf p (d.contents (d.locate p)).report = .ok (.filesystem type)

/-- A device that is reported to be of a type shows it. -/
theorem shows_of_report {d : Devices} {p : Path} {type : String} (hne : type ≠ "")
    (hunbroken : Text.Unbroken type.toList)
    (h : (d.contents (d.locate p)).report = .success (DiskFormat.typeReport type)) : d.Shows p type := by
  rw [Shows, h, ← DiskFormat.ofReport_type hne hunbroken]
  rfl

/-- A device shows the filesystem that was made on it. -/
theorem shows_write (d : Devices) (p : Path) {type : String} (hne : type ≠ "")
    (hunbroken : Text.Unbroken type.toList) : (d.write (d.locate p) (.filesystem type)).Shows p type := by
  refine shows_of_report hne hunbroken ?_
  rw [locate_write, contents_write]
  rfl

/-- What is inside an encrypted device is another device. -/
theorem inside_ne (outer : Device) : Device.inside outer ≠ outer := by
  intro h
  induction outer with
  | raw number => nomatch h
  | inside outer ih => exact ih (Device.inside.inj h)

/-- A device that was encrypted shows it. -/
theorem shows_encrypted (d : Devices) (p : Path) :
    ((d.write (d.locate p) .encrypted).write (.inside (d.locate p)) .blank).Shows p Encryption.formatName := by
  refine shows_of_report (by decide) (by decide) ?_
  rw [locate_write, locate_write, contents_write_of_ne (inside_ne _).symm, contents_write]
  rfl

/-- Mappings make no difference to a device that is none. -/
theorem shows_setMapping {p : Path} (h : p.mapping = none) {d : Devices} {type : String} (hshows : d.Shows p type)
    (name : String) (outer : Option Device) : (d.setMapping name outer).Shows p type := by
  rw [Shows, locate_of_outside h] at hshows ⊢
  exact hshows

/-- Nor does what is written inside an encrypted device. -/
theorem shows_write_inside {p : Path} (h : p.mapping = none) {d : Devices} {type : String} (hshows : d.Shows p type)
    (outer : Device) (c : Contents) : (d.write (.inside outer) c).Shows p type := by
  have hother : Device.raw (d.number p) ≠ .inside outer := Device.noConfusion
  rw [Shows, locate_write, locate_of_outside h, contents_write_of_ne hother, ← locate_of_outside h]
  exact hshows

end Devices

end VolumeDriver
