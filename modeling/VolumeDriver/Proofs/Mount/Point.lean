import VolumeDriver.Proofs.Host.Commands

/-!
# Mount points are handled without helper tools

To look at a mount point takes no command and changes no mount; to clear it away takes no command.
-/

namespace VolumeDriver.MountPoint

open HostTask Program

/-- A look at a mount point is one of the system, and then one at the mount table. -/
theorem only_isFree {Q : HostCall → Prop} {p : Path} (hlook : Q (.looksUnmounted p)) (hcanonical : Q (.file (.canonical p)))
    (hentries : Q .entries) : Only (I := host) Q (isFree p).run := by
  unfold isFree
  refine Only.except_bind (only_attempt (only_ask hlook)) fun looked => ?_
  -- the table is looked up after the quick look saw nothing, or was not permitted
  have htable : ∀ looksFree : Bool, Only (I := host) Q (do
      if looksFree then
        let resolved ← askFiles (.canonical p)
        let entries ← askHost .entries
        return !entries.any (·.matchesPath resolved)
      else return false : HostTask Bool).run := by
    intro looksFree
    split
    · exact Only.except_bind (only_ask hcanonical) fun resolved => Only.except_bind (only_ask hentries) fun entries => trivial
    · trivial
  cases looked with
  | ok looksFree => exact htable looksFree
  | error e =>
    dsimp only
    split
    · exact htable true
    · trivial

/-- To look whether a path is free neither runs a command nor mounts. -/
theorem settled_isFree (p : Path) : Only (I := host) HostCall.Settled (isFree p).run := only_isFree trivial trivial trivial

theorem settled_deviceAt (p : Path) : Only (I := host) HostCall.Settled (deviceAt p).run := by
  unfold deviceAt
  refine Only.except_bind (only_ask trivial) fun entries => Only.except_bind (only_attempt (only_ask trivial)) fun found => ?_
  cases found <;> trivial

theorem settled_remove (p : Path) : Only (I := host) HostCall.Settled (remove p).run := by
  unfold remove
  refine Only.except_bind (only_attempt (only_ask trivial)) fun found => ?_
  split <;> exact only_ask trivial

/-- Either look at a path, the thorough one or not, neither runs a command nor mounts. -/
theorem settled_seemsFree (thorough : Bool) (p : Path) : Only (I := host) HostCall.Settled (seemsFree thorough p).run := by
  unfold seemsFree
  split
  · exact settled_isFree p
  · exact only_ask trivial

/-- To unmount and remove a path runs no command: an unmount is a call of its own. -/
theorem quiet_unmountAndRemove (thorough : Bool) (p : Path) : Quiet (unmountAndRemove thorough p) := by
  unfold unmountAndRemove
  refine Quiet.bind quiet_ask fun _ => Quiet.bind (.of_settled (settled_seemsFree thorough p)) fun free => ?_
  split
  · exact .of_settled (settled_remove p)
  · exact quiet_throw _

/-- To clear a path away runs no command. -/
theorem quiet_cleanUp (thorough : Bool) (p : Path) : Quiet (cleanUp thorough p) := by
  unfold cleanUp
  refine Quiet.bind (Quiet.attempt quiet_ask) fun found => ?_
  split
  · refine Quiet.bind (.of_settled (settled_seemsFree thorough p)) fun free => ?_
    split
    · exact .of_settled (settled_remove p)
    · exact quiet_unmountAndRemove thorough p
  · split
    · exact quiet_pure ()
    · split
      · exact quiet_unmountAndRemove thorough p
      · exact quiet_throw _

end VolumeDriver.MountPoint
