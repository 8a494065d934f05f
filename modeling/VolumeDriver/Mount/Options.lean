import VolumeDriver.Tool.Command

/-!
# The command line of a mount

Options are of two kinds: plain ones, and sensitive ones, which are passed on but never told. A mount is told without its
sensitive options (`MountCommand.told`). A bind mount takes two commands, since the system ignores the options of the first.
-/

namespace VolumeDriver

/-- A mount that is asked for. -/
structure MountRequest where
  source : Option Path
  target : Path
  /-- Empty if the system is to find out. -/
  fsType : String
  options : List String := []
  sensitive : List String := []
  deriving DecidableEq, Repr

/-- The options of a mount, sorted for the two commands that a bind mount takes. -/
structure BindOptions where
  /-- Whether a bind mount is asked for. -/
  isBind : Bool
  bind : List String
  remount : List String
  /-- Sensitive options, which go with both commands. -/
  sensitive : List String
  deriving DecidableEq, Repr

namespace BindOptions

def bindName : String := "bind"

/-- An option for the tools alone, which the system does not keep between the two commands. -/
def networkName : String := "_netdev"

/-- The options as they are before any is sorted. -/
def start : BindOptions := ⟨false, [bindName], [bindName, "remount"], []⟩

/-- Sorts one option. -/
def add (isSensitive : Bool) (b : BindOptions) (option : String) : BindOptions :=
  if option = bindName then { b with isBind := true }
  else if option = networkName then
    { b with bind := b.bind ++ [networkName], remount := b.remount ++ [networkName] }
  else if isSensitive then { b with sensitive := b.sensitive ++ [option] }
  else { b with remount := b.remount ++ [option] }

/-- Sorts plain, then sensitive options. -/
def ofOptions (options sensitive : List String) : BindOptions :=
  sensitive.foldl (add true) (options.foldl (add false) start)

end BindOptions

/-- A command that mounts, and how it is told. -/
structure MountCommand where
  program : String
  args : List String
  /-- The arguments without the sensitive options. -/
  told : String
  deriving DecidableEq, Repr

namespace MountCommand

def mountProgram : String := "mount"

def option (name : String) (value : String) : List String := if value.isEmpty then [] else [name, value]

/-- Sensitive options come last, all in one argument with the plain ones. The text told has an `-o` also when all options are
sensitive, with nothing behind it. -/
def ofRequest (m : MountRequest) : MountCommand :=
  let any := !(m.options.isEmpty && m.sensitive.isEmpty)
  let source := (m.source.map (·.text)).toList
  let fsType := option "-t" m.fsType
  let args := fsType ++ (if any then ["-o", Text.joinWith "," (m.options ++ m.sensitive)] else []) ++ source ++
    [m.target.text]
  let told := Text.joinWith " " fsType ++ (if any then " -o " ++ Text.joinWith "," m.options else "") ++
    String.join (source.map (" " ++ ·)) ++ " " ++ m.target.text
  ⟨mountProgram, args, String.ofList (told.toList.dropWhile Text.isBlank)⟩

def scopeProgram : String := "systemd-run"

/-- The same command in a scope of its own, in which what it starts outlives the caller. -/
def inScope (scopeRunner : String) (target : Path) (c : MountCommand) : MountCommand :=
  let scope :=
    ["--description=cloudvol transient mount for " ++ target.text, "--scope", "--", c.program]
  ⟨scopeRunner, scope ++ c.args, Text.joinWith " " scope ++ " " ++ c.told⟩

def command (c : MountCommand) : Command := ⟨c.program, c.args, none⟩

end MountCommand

end VolumeDriver
