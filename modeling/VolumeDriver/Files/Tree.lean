import VolumeDriver.Files.Error
import VolumeDriver.Path
import VolumeDriver.SortedMap

/-!
# A tree of files

The tree says what stands at each place; a place is the list of names that leads there from the root. A path is walked name by
name, and every link met on the way is followed, up to a limit. Operations on the last name of a path, such as removing it, walk
to the directory that holds the name and do not follow a link of that name. A failed operation leaves the tree as it was, save
that the directories made on the way to a new one stay, and what was removed before a failure is gone.
-/

namespace VolumeDriver.Files

/-- The names that lead from the root to a place. -/
abbrev Place := List String

/-- Places are in the order of lists. -/
instance : LE Place := List.instLE

/-- What can stand at a place. Content is not kept, so a socket is a file. -/
inductive FileObject where
  | directory (mode : Nat)
  | file (mode : Nat)
  | link (target : String)
  deriving DecidableEq, Repr

/-- All that stands somewhere. The root is always a directory and is not listed. -/
structure FileTree where
  objects : SortedMap Place FileObject := .empty
  deriving DecidableEq

/-- Where a walk ends. -/
inductive Landing where
  /-- At a file or directory. -/
  | found (place : Place)
  /-- In a directory that lacks the last name. -/
  | missing (directory : Place) (name : String)
  deriving DecidableEq, Repr

/-- What a path is walked for. -/
inductive Purpose where
  | find
  /-- To find a file or else to make it, which a name with a slash behind it is never good for. -/
  | create
  deriving DecidableEq, Repr

/-- The last part of a path. -/
inductive LastPart where
  | root
  | here
  | up
  | name (name : String)
  deriving DecidableEq, Repr

/-- A path as the system takes it: the parts between slashes. -/
structure Route where
  absolute : Bool
  parts : List String
  /-- Whether it ends in a slash, so that only a directory will do. -/
  slash : Bool
  deriving DecidableEq, Repr

namespace Route

def ofText (s : String) : Route :=
  ⟨s.toList.head? = some '/', (Text.split '/' s).filter (· ≠ ""), s.toList.getLast? = some '/'⟩

/-- The parts to walk. A slash at the end is an empty part: it asks for a directory, as `.` does. -/
def steps (r : Route) : List String := if r.slash then r.parts ++ [""] else r.parts

/-- The parts before the last, to be walked to a directory. -/
def parentSteps (r : Route) : List String := r.parts.dropLast ++ ["."]

def last (r : Route) : LastPart :=
  match r.parts.getLast? with
  | none => .root
  | some "." => .here
  | some ".." => .up
  | some name => .name name

end Route

/-- The longest name, in bytes. -/
def longestName : Nat := 255

/-- A path of this many bytes is too long. -/
def pathLimit : Nat := 4096

/-- How many links one walk follows. -/
def linkLimit : Nat := 40

/-- The bits of a mode that are taken from what a program asks for. -/
def withheld : Nat := 0o022

def grantedMode (mode : Nat) : Nat := mode - (mode &&& withheld)

namespace FileTree

/-- The directories that every system has. -/
def standardPlaces : List Place :=
  [["dev"], ["proc"], ["proc", "self"], ["sys"], ["tmp"], ["usr"], ["usr", "bin"], ["usr", "local"],
    ["usr", "local", "bin"]]

/-- A tree of these directories and the link that stands for one of them. -/
def standard : FileTree :=
  ⟨.ofList ((["bin"], .link "usr/bin") :: standardPlaces.map fun p => (p, .directory 0o755))⟩

/-- What stands at a place. -/
def at? (t : FileTree) (p : Place) : Option FileObject :=
  if p.isEmpty then some (.directory 0o755) else t.objects.get? p

def put (t : FileTree) (p : Place) (o : FileObject) : FileTree := ⟨t.objects.insert p o⟩

def drop (t : FileTree) (p : Place) : FileTree := ⟨t.objects.erase p⟩

/-- At the top there is always a directory. -/
@[simp]
theorem at?_nil (t : FileTree) : t.at? [] = some (.directory 0o755) := rfl

/-- What is found after an object was put at a place: the object there, and elsewhere what was found before. -/
theorem at?_put (t : FileTree) {p : Place} (hp : p ≠ []) (q : Place) (o : FileObject) :
    (t.put p o).at? q = if q = p then some o else t.at? q := by
  cases q with
  | nil => simp [Ne.symm hp]
  | cons n ns => simp [at?, put]

/-- What is found after a place was emptied: nothing there, and elsewhere what was found before. -/
theorem at?_drop (t : FileTree) {p : Place} (hp : p ≠ []) (q : Place) :
    (t.drop p).at? q = if q = p then none else t.at? q := by
  cases q with
  | nil => simp [Ne.symm hp]
  | cons n ns => simp [at?, drop]

/-- Walks parts from a directory; `follow` goes on from a directory with the parts of a link and those after it. -/
def walkWith (t : FileTree) (purpose : Purpose) (follow : Place → List String → Except Errno Landing) (here : Place) :
    List String → Except Errno Landing
  | [] => .ok (.found here)
  | part :: rest =>
    if part = "" ∨ part = "." then walkWith t purpose follow here rest
    else if part = ".." then walkWith t purpose follow here.dropLast rest
    else if purpose = .create ∧ rest = [""] then .error .isDirectory
    else if longestName < part.utf8ByteSize then .error .nameTooLong
    else
      match t.at? (here ++ [part]) with
      | none => if rest.isEmpty then .ok (.missing here part) else .error .noEntry
      | some (.directory _) => walkWith t purpose follow (here ++ [part]) rest
      | some (.file _) => if rest.isEmpty then .ok (.found (here ++ [part])) else .error .notDirectory
      | some (.link target) =>
        let r := Route.ofText target
        follow (if r.absolute then [] else here) (r.steps ++ rest)

/-- Walks parts from a directory, following so many links and no more. -/
def walk (t : FileTree) (purpose : Purpose) : Nat → Place → List String → Except Errno Landing
  | 0 => t.walkWith purpose fun _ _ => .error .tooManyLinks
  | links + 1 => t.walkWith purpose (t.walk purpose links)

/-- Refuses a path that cannot be handed to the system. -/
def checkPath (p : Path) : Except IoError Unit :=
  if '\x00' ∈ p.chars then .error (.other "file name contained an unexpected NUL byte") else .ok ()

/-- A failure of the system. -/
def system {α : Type} : Except Errno α → Except IoError α
  | .ok a => .ok a
  | .error e => .error (.os e)

/-- A path as the system reads it. The root is the working directory. -/
def readPath (p : Path) : Except Errno Route :=
  if p.text.isEmpty then .error .noEntry
  else if pathLimit ≤ p.text.utf8ByteSize then .error .nameTooLong
  else .ok (.ofText p.text)

/-- The route of a path that the system is asked about. -/
def route (p : Path) : Except IoError Route := do
  checkPath p
  system (readPath p)

/-- Where a whole path leads. -/
def land (t : FileTree) (purpose : Purpose) (p : Path) : Except IoError Landing := do
  let r ← route p
  system (t.walk purpose linkLimit [] r.steps)

/-- The place of the file or directory that a path leads to. -/
def locate (t : FileTree) (p : Path) : Except IoError Place := do
  match ← t.land .find p with
  | .found place => .ok place
  | .missing _ _ => .error (.os .noEntry)

/-- What a path leads to. -/
def stat (t : FileTree) (p : Path) : Except IoError FileObject := do
  let place ← t.locate p
  match t.at? place with
  | some o => .ok o
  | none => .error (.os .noEntry)

def isDirectory (t : FileTree) (p : Path) : Bool :=
  match t.stat p with
  | .ok (.directory _) => true
  | _ => false

def render (p : Place) : Path := ⟨"/" ++ Text.joinWith "/" p⟩

/-- The path without links, `.` and `..` that leads to the same place. -/
def canonical (t : FileTree) (p : Path) : Except IoError Path := render <$> t.locate p

/-- The directory that holds the last name of a path. -/
def directoryOf (t : FileTree) (r : Route) : Except IoError Place :=
  match t.walk .find linkLimit [] r.parentSteps with
  | .ok (.found place) => .ok place
  | .ok (.missing _ _) => .error (.os .noEntry)
  | .error e => .error (.os e)

/-- The last name of a path and the directory that holds it, for an operation that needs a name; a path that ends in none is
the given failure. -/
def lastName (t : FileTree) (p : Path) (unnamed : LastPart → Errno) : Except IoError (Route × Place) := do
  let r ← route p
  let directory ← t.directoryOf r
  match r.last with
  | .name name =>
    if longestName < name.utf8ByteSize then .error (.os .nameTooLong) else .ok (r, directory ++ [name])
  | part => .error (.os (unnamed part))

def makeDirectory (t : FileTree) (mode : Nat) (p : Path) : Except IoError FileTree := do
  let (_, place) ← t.lastName p fun _ => .alreadyThere
  match t.at? place with
  | some _ => .error (.os .alreadyThere)
  | none => .ok (t.put place (.directory (grantedMode mode)))

/-- Makes a directory that may be there already. -/
def ensureDirectory (t : FileTree) (mode : Nat) (p : Path) : Except IoError Unit × FileTree :=
  match t.makeDirectory mode p with
  | .ok t' => (.ok (), t')
  | .error e => (if t.isDirectory p then .ok () else .error e, t)

/-- Makes a directory and, within so many levels above it, the directories that lead there. -/
def makeDirectoriesWithin (mode : Nat) : Nat → Path → FileTree → Except IoError Unit × FileTree
  | 0, _, t => (.error (.other "failed to create whole tree"), t)
  | levels + 1, p, t =>
    if p.components.isEmpty then (.ok (), t)
    else
      match t.makeDirectory mode p with
      | .ok t' => (.ok (), t')
      | .error e =>
        if e.isNotFound then
          match p.parent with
          | none => (.error (.other "failed to create whole tree"), t)
          | some above =>
            match makeDirectoriesWithin mode levels above t with
            | (.error e, t) => (.error e, t)
            | (.ok (), t) => t.ensureDirectory mode p
        else (if t.isDirectory p then .ok () else .error e, t)

/-- Makes a directory and those that lead there. Each is one component shorter than the one below it. -/
def makeDirectories (t : FileTree) (mode : Nat) (p : Path) : Except IoError Unit × FileTree :=
  makeDirectoriesWithin mode (p.components.length + 1) p t

/-- Opens a file for writing, and makes it if there is none; a link to a missing file makes that file. -/
def createFile (t : FileTree) (p : Path) : Except IoError FileTree := do
  match ← t.land .create p with
  | .missing directory name => .ok (t.put (directory ++ [name]) (.file (grantedMode 0o666)))
  | .found place =>
    match t.at? place with
    | some (.directory _) => .error (.os .isDirectory)
    | _ => .ok t

/-- Whether anything stands below a place. -/
def hasBelow (t : FileTree) (p : Place) : Bool := t.objects.keys.any fun q => p.length < q.length && p.isPrefixOf q

def removeDirectory (t : FileTree) (p : Path) : Except IoError FileTree := do
  let (_, place) ← t.lastName p fun
    | .root => .busy
    | .here => .invalid
    | _ => .notEmpty
  match t.at? place with
  | none => .error (.os .noEntry)
  | some (.directory _) => if t.hasBelow place then .error (.os .notEmpty) else .ok (t.drop place)
  | some _ => .error (.os .notDirectory)

/-- Removes a file or a link. -/
def removeFile (t : FileTree) (p : Path) : Except IoError FileTree := do
  let (r, place) ← t.lastName p fun _ => .isDirectory
  match t.at? place with
  | none => .error (.os .noEntry)
  | some (.directory _) => .error (.os .isDirectory)
  | some _ => if r.slash then .error (.os .notDirectory) else .ok (t.drop place)

/-- A tree without what stands below a place. -/
def clear (t : FileTree) (p : Place) : FileTree :=
  ⟨⟨t.objects.entries.filter fun e => !(p.length < e.1.length && p.isPrefixOf e.1), t.objects.ascending.filter _⟩⟩

/-- Whether a path is that of a link itself. A slash behind the link's name asks for what it leads to. -/
def isLink (t : FileTree) (p : Path) : Bool :=
  match t.lastName p fun _ => .noEntry with
  | .ok (r, place) =>
    match t.at? place with
    | some (.link _) => !r.slash
    | _ => false
  | .error _ => false

/-- Removes all below the directory that a path leads to, then the directory by that path. The path may have led through what is
gone by then, in which case the directory stays. -/
def removeTree (t : FileTree) (p : Path) : Except IoError Unit × FileTree :=
  match t.locate p with
  | .error e => (.error e, t)
  | .ok place =>
    let cleared := t.clear place
    match cleared.removeDirectory p with
    | .ok t => (.ok (), t)
    | .error e => (if e.isNotFound then .ok () else .error e, cleared)

/-- Removes a file, a link or a directory with all below it. -/
def remove (t : FileTree) (p : Path) : Except IoError Unit × FileTree :=
  if t.isDirectory p && !t.isLink p then t.removeTree p
  else
    match t.removeFile p with
    | .ok t => (.ok (), t)
    | .error e => (.error e, t)

/-- Puts something at a free place that needs no directory. -/
def placeNew (t : FileTree) (p : Path) (taken : Errno) (o : FileObject) : Except IoError FileTree := do
  let (r, place) ← t.lastName p fun _ => taken
  match t.at? place with
  | some _ => .error (.os taken)
  | none => if r.slash then .error (.os .noEntry) else .ok (t.put place o)

/-- Makes a link. A target that is no path for the system is found before what is wrong with the link's own path. -/
def makeLink (t : FileTree) (p : Path) (target : String) : Except IoError FileTree := do
  checkPath ⟨target⟩
  checkPath p
  let _ ← system (readPath ⟨target⟩)
  t.placeNew p .alreadyThere (.link target)

/-- A socket's path of this many bytes is too long. -/
def socketPathLimit : Nat := 108

/-- Makes a socket. -/
def bindSocket (t : FileTree) (p : Path) : Except IoError FileTree :=
  if socketPathLimit ≤ p.text.utf8ByteSize then .error (.other "path must be shorter than SUN_LEN")
  else t.placeNew p .addressInUse (.file (grantedMode 0o777))

/-- All that stands below a place, each directory before what it holds. -/
def below (t : FileTree) (p : Place) : List (Place × FileObject) :=
  t.objects.toList.filterMap fun (q, o) =>
    if p.length < q.length && p.isPrefixOf q then some (q.drop p.length, o) else none

end FileTree

end VolumeDriver.Files
