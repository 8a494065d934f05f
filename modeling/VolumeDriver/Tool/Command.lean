import VolumeDriver.Trace

/-!
# Commands and their outcome

A command is a program with its arguments and perhaps a text for its standard input. That text may be a secret, so it is never
shown, not even in a trace.
-/

namespace VolumeDriver

structure Command where
  program : String
  args : List String := []
  stdin : Option String := none
  deriving DecidableEq, Repr

namespace Command

/-- The command line. -/
def render (c : Command) : String := Text.joinWith " " (c.program :: c.args)

def trace (c : Command) : String :=
  Trace.record "Cmd" [("program", Text.quote c.program), ("args", Trace.list Text.quote c.args),
    ("stdin", Trace.option (fun _ => Trace.redacted) c.stdin)]

end Command

/-- How a command ended. -/
structure CommandOutput where
  /-- None if a signal ended it. -/
  code : Option Int
  /-- What it wrote, errors included. -/
  output : String
  deriving DecidableEq, Repr

namespace CommandOutput

def success (output : String) : CommandOutput := ⟨some 0, output⟩

def isSuccess (o : CommandOutput) : Bool := o.code = some 0

def renderCode (o : CommandOutput) : String := Trace.option toString o.code

end CommandOutput

end VolumeDriver
