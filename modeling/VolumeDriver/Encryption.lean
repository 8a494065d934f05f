import VolumeDriver.Host.Call

/-!
# Encrypted devices

An encrypted device is opened as a mapping, a second device under `/dev/mapper` with the file name of the first. A passphrase
is given to `cryptsetup` on its standard input and nowhere else.
-/

namespace VolumeDriver.Encryption

/-- What a probe calls an encrypted device. -/
def formatName : String := "crypto_LUKS"

def mappingDirectory : Path := ⟨"/dev/mapper"⟩

/-- The name of the mapping of a device. A path without a file name has none. -/
def mappingName (device : Path) : Option String := device.fileName

def mappingPath (name : String) : Path := mappingDirectory.join ⟨name⟩

def program : String := "cryptsetup"

def formatCommand (device : Path) (passphrase : String) : Command :=
  ⟨program, ["luksFormat", "--type", "luks1", "--batch-mode", device.text], some passphrase⟩

def openCommand (device : Path) (name passphrase : String) : Command :=
  ⟨program, ["luksOpen", "--allow-discards", device.text, name], some passphrase⟩

def closeCommand (name : String) : Command := ⟨program, ["luksClose", name], none⟩

def growCommand (name : String) : Command := ⟨program, ["resize", name], none⟩

def statusCommand (name : String) : Command := ⟨program, ["status", name], none⟩

/-- The code with which the status of a mapping that is not active ends. -/
def inactive : Int := 4

/-- Runs a command that has to succeed. -/
def run (c : Command) : HostTask Unit := do
  let _ ← HostTask.ofExcept ((← askHost (.run c)).check c)

/-- Whether a mapping is active. -/
def isActive (name : String) : HostTask Bool := do
  let o ← askHost (.run (statusCommand name))
  if o.code = some 0 then return true
  else if o.code = some inactive then return false
  else throw (.commandFailed (statusCommand name).render o)

/-- Makes a device an encrypted one. What was on it is lost. -/
def format (device : Path) (passphrase : String) : HostTask Unit := run (formatCommand device passphrase)

/-- Opens a device as a mapping, unless the mapping is active. -/
def openMapping (device : Path) (name passphrase : String) : HostTask Unit := do
  unless ← isActive name do run (openCommand device name passphrase)

/-- Closes a mapping if it is active. -/
def closeMapping (name : String) : HostTask Unit := do
  if ← isActive name then run (closeCommand name)

/-- Grows an active mapping to the size of its device. -/
def growMapping (name : String) : HostTask Unit := run (growCommand name)

end VolumeDriver.Encryption
