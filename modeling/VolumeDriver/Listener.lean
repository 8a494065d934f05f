import VolumeDriver.Endpoint
import VolumeDriver.Files.Tree

/-!
# Listening on an endpoint

A socket takes the place of a file that an earlier run left there; the directories that lead to it are made if they are missing.
The host has no network: no interface has an address, so what can be listened at is decided by the kind of address alone.
-/

namespace VolumeDriver

open Files

namespace Endpoint

/-- Removes what is left of an earlier socket. -/
def removeStale (p : Path) (t : FileTree) : Except IoError FileTree :=
  match t.removeFile p with
  | .ok t => .ok t
  | .error e => if e.isNotFound then .ok t else .error e

/-- Makes the directory of a socket. -/
def makeParent (p : Path) (t : FileTree) : Except IoError Unit × FileTree :=
  match p.parent with
  | some above => t.makeDirectories 0o777 above
  | none => (.ok (), t)

/-- Listens at the path of a socket. -/
def bindUnix (p : Path) (t : FileTree) : Except IoError Unit × FileTree :=
  match removeStale p t with
  | .error e => (.error e, t)
  | .ok t =>
    match makeParent p t with
    | (.error e, t) => (.error e, t)
    | (.ok (), t) =>
      match t.bindSocket p with
      | .ok t => (.ok (), t)
      | .error e => (.error e, t)

/-- The scope of the one interface that every host has. -/
def loopbackScope : UInt32 := 1

/-- Listens at an address. Any IPv4 address is taken as it comes, also where it is written as a mapped one; of the other IPv6
addresses only the unspecified one. A link-local address needs the scope of an interface before it is even looked for. -/
def bindTcp : Net.SocketAddress → Except IoError Unit
  | .v4 _ _ => .ok ()
  | .v6 ip scope _ =>
    if ip.isUnspecified || ip.isMapped then .ok ()
    else if ip.isMulticast || (ip.isLinkLocal && scope = 0) then .error (.os .invalid)
    else if ip.isLinkLocal && scope ≠ loopbackScope then .error (.os .noDevice)
    else .error (.os .addressNotAvailable)

/-- Listens on an endpoint. -/
def bind (t : FileTree) : Endpoint → Except IoError Unit × FileTree
  | unix path => bindUnix ⟨path⟩ t
  | tcp address => (bindTcp address, t)

end Endpoint

end VolumeDriver
