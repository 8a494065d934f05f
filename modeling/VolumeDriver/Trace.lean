import VolumeDriver.Path
import VolumeDriver.Text.Quoted
import VolumeDriver.Volume

/-!
# How values are written in traces

Records, lists, maps and optional values are written with their names and in full. Secrets and mount flags are not: of a
secret its key is written, and of mount flags their number.
-/

namespace VolumeDriver.Trace

/-- What stands in a trace in the place of a secret. -/
def redacted : String := Text.quote "<redacted>"

/-- A record: its name and its fields. -/
def record (name : String) (fields : List (String × String)) : String :=
  match fields with
  | [] => name
  | _ => name ++ " \x7b " ++ Text.joinWith ", " (fields.map fun (k, v) => k ++ ": " ++ v) ++ " \x7d"

def list {α : Type} (f : α → String) (xs : List α) : String := "[" ++ Text.joinWith ", " (xs.map f) ++ "]"

def option {α : Type} (f : α → String) : Option α → String
  | none => "None"
  | some a => "Some(" ++ f a ++ ")"

def map (m : StringMap) : String :=
  "\x7b" ++ Text.joinWith ", " (m.toList.map fun (k, v) => Text.quote k ++ ": " ++ Text.quote v) ++ "\x7d"

def bool (b : Bool) : String := if b then "true" else "false"

def path (p : Path) : String := Text.quote p.text

end VolumeDriver.Trace
