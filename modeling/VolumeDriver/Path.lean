import VolumeDriver.Text.Blank

/-!
# Paths

A path is a text; its components are what stands between slashes. Empty components do not count, nor does `.`, save at the
start of a relative path. Two paths are the same when their components are (`Path.same`), although their texts may differ.
-/

namespace VolumeDriver

structure Path where
  text : String
  deriving DecidableEq, Repr, Inhabited

inductive Path.Component where
  | root
  /-- `.` at the start of a relative path. -/
  | here
  /-- `..` -/
  | up
  | name (s : List Char)
  deriving DecidableEq, Repr

namespace Path

def chars (p : Path) : List Char := p.text.toList

def isAbsolute (p : Path) : Bool := p.chars.head? = some '/'

/-- What a piece between slashes stands for. -/
def ofPiece : List Char → Option Component
  | [] => none
  | ['.'] => none
  | ['.', '.'] => some .up
  | cs => some (.name cs)

/-- The components of a list of characters. -/
def componentsOf (cs : List Char) : List Component :=
  let rest := (Text.splitAtChar '/' cs).filterMap ofPiece
  if cs.head? = some '/' then .root :: rest
  else if (Text.splitAtChar '/' cs).head? = some ['.'] then .here :: rest
  else rest

def components (p : Path) : List Component := componentsOf p.chars

/-- Equality of paths: the same components in the same order. -/
def same (p q : Path) : Bool := p.components = q.components

/-- The last component, if it is a name. -/
def fileName (p : Path) : Option String :=
  match p.components.getLast? with
  | some (.name cs) => some (String.ofList cs)
  | _ => none

/-- A path below another. An absolute path replaces what it is put below. -/
def join (p q : Path) : Path :=
  if q.isAbsolute then q
  else if p.text.isEmpty ∨ p.chars.getLast? = some '/' then ⟨p.text ++ q.text⟩
  else ⟨p.text ++ "/" ++ q.text⟩

/-- Drops pieces that are no components from the end of a reversed list of pieces. -/
def dropIdle : List (List Char) → List (List Char)
  | [] => []
  | p :: ps => if (ofPiece p).isNone ∧ ¬ ps.isEmpty then dropIdle ps else p :: ps

/-- The text up to before the last component; none for the root and for the empty path. The text keeps its spelling up to
there. -/
def parent (p : Path) : Option Path :=
  match p.components with
  | [] | [.root] => none
  | [.here] => some ⟨""⟩
  | _ =>
    match dropIdle (Text.splitAtChar '/' p.chars).reverse with
    | [] | [_] => some ⟨""⟩
    | _ :: before =>
      let kept := (dropIdle before).reverse.map String.ofList
      match kept with
      | [""] => some ⟨"/"⟩
      | _ => some ⟨Text.joinWith "/" kept⟩

end Path

end VolumeDriver
