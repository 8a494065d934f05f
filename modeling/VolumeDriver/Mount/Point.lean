import VolumeDriver.Host.Call

/-!
# Mount points

Whether something is mounted at a path, what it is, and how a mount point is cleared away. The mount table lists resolved paths,
so a path is resolved before it is looked up.
-/

namespace VolumeDriver.MountPoint

open Files HostTask

/-- Whether nothing is mounted at a path. The quick look is trusted when it sees a mount; what it misses is in the table. Where
it is not permitted to look, the table alone decides. -/
def isFree (p : Path) : HostTask Bool := do
  let looksFree ← match ← attempt (askHost (.looksUnmounted p)) with
    | .ok b => pure b
    | .error e => if e.isPermission then pure true else throw e
  if looksFree then
    let resolved ← askFiles (.canonical p)
    let entries ← askHost .entries
    return !entries.any (·.matchesPath resolved)
  else return false

/-- The device mounted at a path, and how many mounts there are of it. A path that cannot be resolved is looked up as it is. -/
def deviceAt (p : Path) : HostTask (Option (Path × Nat)) := do
  let entries ← askHost .entries
  let resolved ← match ← attempt (askFiles (.canonical p)) with
    | .ok resolved => pure resolved
    | .error _ => pure p
  return MountTable.deviceAt entries resolved

/-- Removes an unmounted directory or file. -/
def remove (p : Path) : HostTask Unit := do
  match ← attempt (askFiles (.stat p)) with
  | .ok (.directory _) => askFiles (.removeDirectory p)
  | _ => askFiles (.removeFile p)

/-- Whether nothing is mounted at a path, by the table too or by the quick look alone. -/
def seemsFree (thorough : Bool) (p : Path) : HostTask Bool :=
  if thorough then isFree p else askHost (.looksUnmounted p)

/-- Unmounts what is mounted at a path and removes the path, unless more is mounted there. -/
def unmountAndRemove (thorough : Bool) (p : Path) : HostTask Unit := do
  askHost (.unmount p none)
  if ← seemsFree thorough p then remove p
  else throw (.other ("failed to unmount path " ++ p.text))

/-- Unmounts a path if it has to be, and removes it. A path that does not exist is clear already. -/
def cleanUp (thorough : Bool) (p : Path) : HostTask Unit := do
  match ← attempt (askFiles (.stat p)) with
  | .ok _ => if ← seemsFree thorough p then remove p else unmountAndRemove thorough p
  | .error e =>
    if e.isNotFound then pure ()
    else if e.isCorruptedMount then unmountAndRemove thorough p
    else throw e

end VolumeDriver.MountPoint
