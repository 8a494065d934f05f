import VolumeDriver.Mount.Error
import VolumeDriver.Text.Decimal

/-!
# The mount table

One entry for each mount, in the order of mounting. The system lists resolved paths; it writes the table as lines of six fields
between blanks, of which the fourth is a list of options between commas.
-/

namespace VolumeDriver

/-- A mount. -/
structure MountEntry where
  device : Path
  path : Path
  fsType : String
  options : List String := []
  /-- How often the filesystem is dumped. -/
  freq : Int64 := 0
  /-- When it is checked at boot. -/
  pass : Int64 := 0
  deriving DecidableEq

namespace MountEntry

/-- A path as the table shows it once its directory was removed. -/
def deletedForm (p : Path) : Path := ⟨p.text ++ "\\040(deleted)"⟩

/-- Whether an entry is mounted at a directory, be it removed or not. -/
def matchesPath (e : MountEntry) (directory : Path) : Bool :=
  e.path.same directory || e.path.same (deletedForm directory)

/-- What a trace shows. Options may hold secrets, so their number alone is shown. -/
def trace (e : MountEntry) : String :=
  Trace.record "MountPoint"
    [("device", Trace.path e.device), ("path", Trace.path e.path), ("type", Text.quote e.fsType),
     ("opts", Text.quote ("length=" ++ toString e.options.length)), ("freq", toString e.freq.toInt),
     ("pass", toString e.pass.toInt)]

end MountEntry

namespace MountTable

/-- How many entries are of a device. -/
def countOf (entries : List MountEntry) (device : Path) : Nat := entries.countP fun e => e.device.same device

/-- The device of the first entry mounted at a path, and how many entries are of that device. -/
def deviceAt (entries : List MountEntry) (p : Path) : Option (Path × Nat) :=
  (entries.find? fun e => e.path.same p).map fun e => (e.device, countOf entries e.device)

/-- The table without the first entry mounted at a path. -/
def removeFirst (p : Path) (entries : List MountEntry) : List MountEntry := entries.eraseP fun e => e.path.same p

/-- How many fields a line has. -/
def fieldCount : Nat := 6

/-- What a failure to read a number is called in a message. -/
def numberProblem (field : String) (e : Text.NumberError) : MountError :=
  let kind := match e with
    | .empty => "Empty"
    | .invalidDigit => "InvalidDigit"
    | .tooLarge => "PosOverflow"
    | .tooSmall => "NegOverflow"
  .other ("invalid " ++ field ++ ": " ++ Trace.record "ParseIntError" [("kind", kind)])

def readNumber (field : String) (cs : List Char) : Except MountError Int64 :=
  match Text.readInt64 cs with
  | .ok n => .ok n
  | .error e => .error (numberProblem field e)

/-- The entry that a line of fields stands for. -/
def entryOfFields : List (List Char) → Except MountError MountEntry
  | [device, path, fsType, options, freq, pass] => do
    let freq ← readNumber "freq" freq
    let pass ← readNumber "pass" pass
    .ok ⟨⟨String.ofList device⟩, ⟨String.ofList path⟩, String.ofList fsType,
      (Text.splitAtChar ',' options).map String.ofList, freq, pass⟩
  | fields => .error (.other ("wrong number of fields (expected " ++ toString fieldCount ++ ", got " ++
      toString fields.length ++ ")"))

/-- The entries of lines; a line of white space alone is none. -/
def ofLines (lines : List (List Char)) : Except MountError (List MountEntry) :=
  (lines.filter fun line => !line.all Text.isBlank).mapM fun line => entryOfFields (Text.wordsOf line)

/-- Reads a table. -/
def parse (s : String) : Except MountError (List MountEntry) := ofLines (Text.linesOf s.toList)

/-- How the system writes a character of a device or a path: what could be taken for the end of a field by its octal code. -/
def escapeField (c : Char) : List Char :=
  if c = ' ' then ['\\', '0', '4', '0']
  else if c = '\t' then ['\\', '0', '1', '1']
  else if c = '\n' then ['\\', '0', '1', '2']
  else if c = '\\' then ['\\', '1', '3', '4']
  else [c]

def escapePath (p : Path) : String := String.ofList (p.chars.flatMap escapeField)

/-- The line of an entry. -/
def renderEntry (e : MountEntry) : String :=
  Text.joinWith " " [escapePath e.device, escapePath e.path, e.fsType, Text.joinWith "," e.options,
    toString e.freq.toInt, toString e.pass.toInt]

/-- The table as the system writes it. -/
def render (entries : List MountEntry) : String := String.join (entries.map fun e => renderEntry e ++ "\n")

/-- Reads a table from bytes, which must be UTF-8. -/
def parseBytes (bytes : ByteArray) : Except MountError (List MountEntry) :=
  match String.fromUTF8? bytes with
  | some s => parse s
  | none => .error (.other "proc mounts contain invalid UTF8")

end MountTable

end VolumeDriver
