import VolumeDriver.Endpoint
import VolumeDriver.Labels
import VolumeDriver.Plugin

/-!
# Settings: flags and variables of the environment

Each setting has a flag, `--name value` or `--name=value`, and a variable that counts where the flag is not given. A flag is given
once. Its value is looked at when the next flag comes or the arguments end, so an argument that nothing is known of is told
before a value that is wrong.
-/

namespace VolumeDriver

/-- Why arguments give no settings. Asking for help or for the version is among the reasons. -/
inductive UsageError where
  | unknownArgument
  /-- A flag without its value. -/
  | invalidValue
  /-- A value that cannot be read. -/
  | valueValidation
  /-- A flag given twice. -/
  | argumentConflict
  | missingRequiredArgument
  /-- A value for a flag that takes none. -/
  | tooManyValues
  | displayHelp
  | displayVersion
  deriving DecidableEq, Repr

/-- A flag that sets something in settings of type `σ`. -/
structure Flag (σ : Type) where
  name : String
  /-- The variable that counts where the flag is not given. -/
  variableName : String
  required : Bool := false
  /-- The settings with a value put in, if the value can be read. -/
  assign : String → σ → Option σ

/-- How a program is called. -/
structure CommandLine (σ : Type) where
  flags : List (Flag σ)
  /-- Whether it tells its version. -/
  hasVersion : Bool
  defaults : σ

/-- Arguments read so far. -/
structure Reading (σ : Type) where
  settings : σ
  /-- The flags whose values are in the settings. -/
  given : List String := []
  /-- The flag read last, with its value once that was read. -/
  pending : Option (Flag σ × Option String) := none

namespace Reading

variable {σ : Type}

/-- Puts the value of a flag into the settings. -/
def set (r : Reading σ) (f : Flag σ) (value : String) : Except UsageError (Reading σ) :=
  match f.assign value r.settings with
  | none => .error .valueValidation
  | some s => .ok { settings := s, given := r.given ++ [f.name], pending := none }

/-- Finishes the flag read last. -/
def settle (r : Reading σ) : Except UsageError (Reading σ) :=
  match r.pending with
  | none => .ok r
  | some (_, none) => .error .invalidValue
  | some (f, some value) => if f.name ∈ r.given then .error .argumentConflict else r.set f value

end Reading

namespace CommandLine

variable {σ : Type}

/-- What a flag that only asks something asks for. -/
def question (c : CommandLine σ) (name : String) : Option UsageError :=
  if name = "help" ∨ name = "h" then some .displayHelp
  else if c.hasVersion ∧ (name = "version" ∨ name = "V") then some .displayVersion
  else none

/-- The name of a long flag, and the value behind an equals sign. -/
def splitValue (cs : List Char) : String × Option String :=
  match Text.splitAtChar '=' cs with
  | [] | [_] => (String.ofList cs, none)
  | name :: pieces => (String.ofList name, some (Text.joinWith "=" (pieces.map String.ofList)))

/-- Reads a long flag, without its dashes. -/
def readLong (c : CommandLine σ) (r : Reading σ) (cs : List Char) : Except UsageError (Reading σ) := do
  let (name, value) := splitValue cs
  match c.flags.find? (·.name = name) with
  | some f =>
    let r ← r.settle
    let r : Reading σ := { r with pending := some (f, value) }
    if value.isSome then r.settle else .ok r
  | none =>
    match if name.length = 1 then none else c.question name with
    | none => .error .unknownArgument
    | some e =>
      if value.isSome then .error .tooManyValues
      else
        let _ ← r.settle
        .error e

/-- Reads a short flag, of which there are only questions. -/
def readShort (c : CommandLine σ) (r : Reading σ) (letter : Char) : Except UsageError (Reading σ) := do
  match c.question (String.singleton letter) with
  | none => .error .unknownArgument
  | some e =>
    let _ ← r.settle
    .error e

/-- Reads an argument that is no flag, which must be a value. -/
def readValue (r : Reading σ) (arg : String) : Except UsageError (Reading σ) :=
  match r.pending with
  | some (f, none) => .ok { r with pending := some (f, some arg) }
  | _ => .error .unknownArgument

/-- Reads one argument. -/
def readArg (c : CommandLine σ) (r : Reading σ) (arg : String) : Except UsageError (Reading σ) :=
  match arg.toList with
  | '-' :: '-' :: cs => c.readLong r cs
  | '-' :: letter :: _ => c.readShort r letter
  | _ => readValue r arg

/-- Reads arguments. Nothing may follow `--`. -/
def readArgs (c : CommandLine σ) : Reading σ → List String → Except UsageError (Reading σ)
  | r, [] => r.settle
  | r, arg :: rest =>
    if arg = "--" then if rest.isEmpty then r.settle else .error .unknownArgument
    else
      match c.readArg r arg with
      | .error e => .error e
      | .ok r => readArgs c r rest

/-- Reads the variable of a flag that was not given. -/
def readVariable (environment : String → Option String) (r : Reading σ) (f : Flag σ) : Except UsageError (Reading σ) :=
  if f.name ∈ r.given then .ok r
  else
    match environment f.variableName with
    | none => .ok r
    | some value => r.set f value

/-- Reads settings from arguments and the environment. -/
def parse (c : CommandLine σ) (environment : String → Option String) (args : List String) : Except UsageError σ := do
  let r ← c.readArgs ⟨c.defaults, [], none⟩ args
  let r ← c.flags.foldlM (readVariable environment) r
  if c.flags.all fun f => !f.required || f.name ∈ r.given then .ok r.settings
  else .error .missingRequiredArgument

end CommandLine

/-- How the plugin of a node is set up. -/
structure NodeSettings where
  endpoint : Endpoint
  /-- The server that the node is. -/
  nodeId : String := ""
  location : String := ""
  maxVolumesPerNode : UInt32 := Plugin.defaultMaxVolumes

/-- How the plugin of a controller is set up. -/
structure ControllerSettings where
  endpoint : Endpoint
  /-- The location of volumes whose request names none. -/
  location : String := ""
  /-- Labels for every new volume, written `key=value,...`. -/
  extraVolumeLabels : String := ""

/-- Reads an unsigned number of 32 bits, which may be written with a sign. -/
def readUInt32 (s : String) : Option UInt32 :=
  match Text.readInt64 s.toList with
  | .ok n => if 0 ≤ n ∧ n.toInt.toNat < UInt32.size then some n.toInt.toNat.toUInt32 else none
  | .error _ => none

namespace NodeSettings

def commandLine : CommandLine NodeSettings where
  flags :=
    [{ name := "endpoint", variableName := "CSI_ENDPOINT"
       assign := fun v s => (Endpoint.parse v).map fun e => { s with endpoint := e } },
     { name := "node-id", variableName := "CLOUDVOL_NODE_ID", required := true
       assign := fun v s => some { s with nodeId := v } },
     { name := "location", variableName := "CLOUDVOL_LOCATION", required := true
       assign := fun v s => some { s with location := v } },
     { name := "max-volumes-per-node", variableName := "CLOUDVOL_MAX_VOLUMES_PER_NODE"
       assign := fun v s => (readUInt32 v).map fun n => { s with maxVolumesPerNode := n } }]
  hasVersion := true
  defaults := { endpoint := Plugin.defaultEndpoint }

end NodeSettings

namespace ControllerSettings

def commandLine : CommandLine ControllerSettings where
  flags :=
    [{ name := "endpoint", variableName := "CSI_ENDPOINT"
       assign := fun v s => (Endpoint.parse v).map fun e => { s with endpoint := e } },
     { name := "location", variableName := "CLOUDVOL_LOCATION", required := true
       assign := fun v s => some { s with location := v } },
     { name := "extra-volume-labels", variableName := "CLOUDVOL_VOLUME_EXTRA_LABELS"
       assign := fun v s => some { s with extraVolumeLabels := v } }]
  hasVersion := false
  defaults := { endpoint := Plugin.defaultEndpoint }

/-- The labels for every new volume. -/
def extraLabels (s : ControllerSettings) : Except Labels.LabelError StringMap := Labels.parse s.extraVolumeLabels

end ControllerSettings

end VolumeDriver
