import VolumeDriver.Host.System
import VolumeDriver.Tool.Shell

/-!
# A machine whose programs follow a script

The programs that are installed answer each run with the next reply of their script, and once it is used up they succeed and write
nothing. Runs of installed programs are logged. Besides these there are a shell and the simple commands it knows, under `/bin`.
Programs are files of the machine: one is started by a path that leads to it, or by its name if it is installed, and what is no
program cannot be started (`start`).
-/

namespace VolumeDriver

open Files

/-- What a program does when it is run. -/
inductive ProgramReply where
  | exits (code : Int) (stdout stderr : String)
  /-- It is killed by a signal. -/
  | killed
  /-- It runs until it is killed. -/
  | hangs
  deriving DecidableEq, Repr

/-- The mounts that every system has. -/
def standardMounts : List MountEntry :=
  [("overlay", "/"), ("proc", "/proc"), ("tmpfs", "/dev"), ("sysfs", "/sys")].map fun (fsType, path) =>
    { device := ⟨fsType⟩, path := ⟨path⟩, fsType := fsType, options := ["rw"] }

structure ScriptedMachine where
  files : FileTree := .standard
  programs : SortedMap String (List ProgramReply) := .empty
  mounts : List MountEntry := standardMounts
  /-- The installed programs that were run, by name, with their arguments. -/
  runs : List (String × List String) := []

namespace ScriptedMachine

/-- The signal that no process survives. -/
def killSignal : Nat := 9

/-- Where programs are installed. -/
def programDirectory : Place := ["usr", "local", "bin"]

def commandDirectory : Place := ["usr", "bin"]

/-- The shell, and the commands it knows. -/
def commands : List String := ["cat", "echo", "false", "printf", "sh", "true"]

/-- A program among files. -/
def putProgram (directory : Place) (t : FileTree) (name : String) : FileTree := t.put (directory ++ [name]) (.file 0o755)

/-- A machine with nothing installed. -/
def ofFiles (t : FileTree) : ScriptedMachine := { files := commands.foldl (putProgram commandDirectory) t }

/-- Installs a program, which will reply to its runs in this way. -/
def install (s : ScriptedMachine) (name : String) (replies : List ProgramReply) : ScriptedMachine :=
  { s with files := putProgram programDirectory s.files name, programs := s.programs.insert name replies }

/-- The process that a reply makes. None if it does not end. -/
def processOf : ProgramReply → Option EndedProcess
  | .exits code stdout stderr => some ⟨.code code, (stdout ++ stderr).toUTF8⟩
  | .killed => some ⟨.signal killSignal, .empty⟩
  | .hangs => none

/-- The process that a list of shell commands makes. -/
def shellProcess : List UInt8 × Shell.Progress → EndedProcess
  | (output, .goesOn code) | (output, .exited code) => ⟨.code code, ⟨output.toArray⟩⟩
  | (output, .killed signal) => ⟨.signal signal, ⟨output.toArray⟩⟩

/-- Runs the shell on a list of commands, which it reads if none is given, or a command that it knows. -/
def runCommand (stdin name : String) (args : List String) : EndedProcess :=
  shellProcess <|
    match name, args with
    | "sh", "-c" :: list :: _ => Shell.run stdin list
    | "sh", _ => Shell.run "" stdin
    | name, args => Shell.runWords stdin 0 (name :: args)

/-- The path that a program is looked for at: a name alone is that of an installed program. -/
def programPath (program : String) : Path :=
  if program.isEmpty ∨ program.toList.contains '/' then ⟨program⟩ else (FileTree.render programDirectory).join ⟨program⟩

/-- No argument has this many bytes. -/
def argumentLimit : Nat := 131072

/-- Finds the program of a command, and makes sure that the command can be handed to it. -/
def findProgram (s : ScriptedMachine) (c : Command) : Except IoError Place :=
  let words := c.program :: c.args
  if words.any (·.toList.contains '\x00') then .error (.other "nul byte found in provided data")
  else do
    let place ← s.files.locate (programPath c.program)
    if words.any (argumentLimit ≤ ·.utf8ByteSize) then .error (.os .argumentsTooLong) else .ok place

/-- Starts a command. None if it does not end. -/
def start (s : ScriptedMachine) (c : Command) : Except IoError (Option EndedProcess) × ScriptedMachine :=
  match s.findProgram c with
  | .error e => (.error e, s)
  | .ok place =>
    match s.programs.toList.find? fun (name, _) => place = programDirectory ++ [name] with
    | some (name, replies) =>
      (.ok (processOf (replies.head?.getD (.exits 0 "" ""))),
        { s with programs := s.programs.insert name (replies.drop 1), runs := s.runs ++ [(name, c.args)] })
    | none =>
      match commands.find? fun name => place = commandDirectory ++ [name] with
      | some name => (.ok (some (runCommand (c.stdin.getD "") name c.args)), s)
      | none => (.error (.os .accessDenied), s)

/-- The mount that a place is on, by its position in the table: the deepest, and of these the last. -/
def deviceNumber (mounts : List MountEntry) (place : Place) : Nat :=
  (mounts.zipIdx.foldl (fun (best : Nat × Nat) (e, i) =>
    let parts := (Route.ofText e.path.text).parts
    if parts.isPrefixOf place ∧ best.1 ≤ parts.length then (parts.length, i + 1) else best) (0, 0)).2

/-- Answers a call. A program that never ends is taken to be killed where nothing else ends it. -/
def answer : (c : MachineCall) → ScriptedMachine → Except IoError c.Answer × ScriptedMachine
  | .file c, s =>
    let (r, files) := s.files.answer c
    (r, { s with files := files })
  | .read p, s =>
    if p.same SystemHost.tablePath then (.ok (MountTable.render s.mounts).toUTF8, s)
    else ((fun _ => .empty) <$> s.files.stat p, s)
  | .device p, s => (deviceNumber s.mounts <$> s.files.locate p, s)
  | .find program, s =>
    (.ok ((s.programs.keys.find? (· = program)).map fun name => FileTree.render (programDirectory ++ [name])), s)
  | .run c, s =>
    let (r, s) := s.start c
    (r.map (·.getD ⟨.signal killSignal, .empty⟩), s)
  | .runFor _ c, s => s.start c

end ScriptedMachine

end VolumeDriver
