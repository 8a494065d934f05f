import VolumeDriver.Volume
import VolumeDriver.Text.Blank

/-!
# Labels written as `key=value,...`

White space around a key and around a value does not count, of several values for a key the last one does, and a text of
white space holds no labels.
-/

namespace VolumeDriver.Labels

/-- Why a piece between two commas is no label. -/
inductive LabelError where
  | invalidPair (piece : String)
  | emptyKey (piece : String)
  deriving DecidableEq, Repr

def LabelError.message : LabelError → String
  | .invalidPair p => "invalid label '" ++ p ++ "', expected key=value"
  | .emptyKey p => "empty label key in '" ++ p ++ "'"

/-- Reads one piece: a key and a value around the only equals sign in it. -/
def readPair (piece : List Char) : Except LabelError (String × String) :=
  match Text.splitAtChar '=' piece with
  | [key, value] =>
    if (Text.trimChars key).isEmpty then .error (.emptyKey (String.ofList piece))
    else .ok (String.ofList (Text.trimChars key), String.ofList (Text.trimChars value))
  | _ => .error (.invalidPair (String.ofList piece))

/-- Adds the pairs of the pieces to a map, up to the first piece that is none. -/
def readPairs (m : StringMap) : List (List Char) → Except LabelError StringMap
  | [] => .ok m
  | p :: ps =>
    match readPair p with
    | .error e => .error e
    | .ok (key, value) => readPairs (m.insert key value) ps

/-- Reads labels from a text. -/
def parse (s : String) : Except LabelError StringMap :=
  if (Text.trimChars s.toList).isEmpty then .ok .empty
  else readPairs .empty (Text.splitAtChar ',' s.toList)

/-- The labels of all sources; a later source wins. -/
def merge (sources : List StringMap) : StringMap := sources.foldl SortedMap.union .empty

end VolumeDriver.Labels
