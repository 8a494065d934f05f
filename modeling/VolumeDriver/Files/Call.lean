import VolumeDriver.Files.Tree

/-!
# Calls on files

What a program may ask of the files of its host, and how a tree answers.
-/

namespace VolumeDriver.Files

/-- What the system counts on a filesystem. -/
structure FilesystemCounts where
  blockSize : UInt64
  blocks : UInt64
  blocksFree : UInt64
  /-- Free blocks that any user may take. -/
  blocksAvailable : UInt64
  files : UInt64
  filesFree : UInt64
  deriving DecidableEq, Repr

inductive FileCall where
  | stat (p : Path)
  | canonical (p : Path)
  | makeDirectories (mode : Nat) (p : Path)
  | createFile (p : Path)
  | removeDirectory (p : Path)
  | removeFile (p : Path)
  | bindSocket (p : Path)
  | counts (p : Path)
  deriving DecidableEq

/-- What a successful call answers. -/
abbrev FileCall.Answer : FileCall → Type
  | stat _ => FileObject
  | canonical _ => Path
  | makeDirectories _ _ | createFile _ | removeDirectory _ | removeFile _ | bindSocket _ => Unit
  | counts _ => FilesystemCounts

namespace FileTree

/-- The outcome of an operation that changes the tree unless it fails. -/
def change (t : FileTree) : Except IoError FileTree → Except IoError Unit × FileTree
  | .ok t' => (.ok (), t')
  | .error e => (.error e, t)

/-- What is counted on the filesystem of a path. The tree keeps no data, so there is nothing to be counted. A path that the
system cannot be asked about is an invalid argument here. -/
def counts (t : FileTree) (p : Path) : Except IoError FilesystemCounts :=
  if '\x00' ∈ p.chars then .error (.os .invalid) else (fun _ => ⟨0, 0, 0, 0, 0, 0⟩) <$> t.stat p

/-- Answers a call. -/
def answer : (c : FileCall) → FileTree → Except IoError c.Answer × FileTree
  | .stat p, t => (t.stat p, t)
  | .canonical p, t => (t.canonical p, t)
  | .makeDirectories mode p, t => t.makeDirectories mode p
  | .createFile p, t => t.change (t.createFile p)
  | .removeDirectory p, t => t.change (t.removeDirectory p)
  | .removeFile p, t => t.change (t.removeFile p)
  | .bindSocket p, t => t.change (t.bindSocket p)
  | .counts p, t => (t.counts p, t)

end FileTree

end VolumeDriver.Files
