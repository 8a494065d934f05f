import VolumeDriver.Node
import VolumeDriver.Settings

/-!
# The command line of a node's plugin

Reads the settings of a node from its arguments and the environment and says what it would serve, or what is wrong with them.
-/

namespace VolumeDriver

/-- What is said of arguments that give no settings. -/
def UsageError.message : UsageError → String
  | unknownArgument => "unexpected argument found"
  | invalidValue => "a value is required but none was supplied"
  | valueValidation => "invalid value"
  | argumentConflict => "an argument cannot be used multiple times"
  | missingRequiredArgument => "required arguments were not provided"
  | tooManyValues => "a value was supplied where none is taken"
  | displayHelp => "usage: --node-id ID --location LOCATION [--endpoint ENDPOINT] [--max-volumes-per-node N]"
  | displayVersion => Plugin.version

/-- Whether the program was asked something rather than called wrongly. -/
def UsageError.isQuestion (e : UsageError) : Bool := e = displayHelp || e = displayVersion

namespace NodeSettings

/-- The node that settings describe. -/
def node (s : NodeSettings) : Node := ⟨s.nodeId, s.location, s.maxVolumesPerNode⟩

def describe (s : NodeSettings) : String :=
  "node " ++ Text.quote s.nodeId ++ " at " ++ Text.quote s.location ++ ", at most " ++
    toString s.maxVolumesPerNode.toNat ++ " volumes, on " ++ s.endpoint.render

end NodeSettings

/-- The variables that count where a flag is not given. -/
def readEnvironment (c : CommandLine NodeSettings) : IO (List (String × String)) := do
  let found ← c.flags.mapM fun f => do return (f.variableName, ← IO.getEnv f.variableName)
  return found.filterMap fun (name, value) => value.map (name, ·)

/-- Says what settings describe, or what is wrong with the arguments. -/
def runCommandLine (args : List String) : IO UInt32 := do
  let environment ← readEnvironment NodeSettings.commandLine
  match NodeSettings.commandLine.parse (fun name => List.lookup name environment) args with
  | .ok settings =>
    IO.println settings.describe
    return 0
  | .error e =>
    if e.isQuestion then
      IO.println e.message
      return 0
    else
      IO.eprintln ("error: " ++ e.message)
      return 2

end VolumeDriver

def main (args : List String) : IO UInt32 := VolumeDriver.runCommandLine args
