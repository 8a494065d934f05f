import VolumeDriver.Proofs.Host.Order
import VolumeDriver.Proofs.Publication.Resumption
import VolumeDriver.Proofs.Mount.Point

/-!
# Nothing is done after a step that failed

Publishing a device, withdrawing it and growing its filesystem each come to an error with the first step that fails, and do nothing
more (`stops_publish`, `stops_unpublish`, `stops_grow`): every command reads its code as an error unless it may end with it, and
what follows an error is not run.
-/

namespace VolumeDriver

open HostTask Program

variable {σ : Type} {answer : (c : HostCall) → σ → Except MountError c.Answer × σ}

/-- Everything but a probe and a look at the status of a mapping has to end with zero. -/
theorem Command.allowedCodes_eq {c : Command} (hprobe : c.program ≠ "blkid")
    (hstatus : ¬ (c.program = "cryptsetup" ∧ c.args.head? = some "status")) : c.allowedCodes = [0] := by
  rw [allowedCodes, if_neg hprobe, if_neg hstatus]

/-- A command that has to succeed. -/
theorem HostTask.stops_succeeding {c : Command} (h : c.allowedCodes = [0]) (failure : CommandOutput → MountError) :
    StopsAtFailure answer (command c fun o => if o.isSuccess then .ok () else .error (failure o)) := by
  refine stops_command fun o hcodes => ?_
  have hzero : o.code ≠ some 0 := hcodes 0 (by simp [h])
  exact ⟨failure o, if_neg (by simpa [CommandOutput.isSuccess] using hzero)⟩

namespace Encryption

/-- A command that has to succeed stops the task when it does not. -/
theorem stops_run {c : Command} (h : c.allowedCodes = [0]) : StopsAtFailure answer (run c) := by
  rw [run_eq]
  exact stops_succeeding h _

/-- A look at the status of a mapping stops at a failure. -/
theorem stops_isActive (name : String) : StopsAtFailure answer (isActive name) := by
  rw [isActive_eq]
  refine stops_command fun o hcodes => ?_
  have hzero : o.code ≠ some 0 := hcodes 0 List.mem_cons_self
  have hinactive : o.code ≠ some inactive := hcodes 4 (List.mem_cons_of_mem _ List.mem_cons_self)
  exact ⟨_, by rw [readStatus, if_neg hzero, if_neg hinactive]⟩

/-- To open a mapping stops at a failure. -/
theorem stops_openMapping (device : Path) (name passphrase : String) :
    StopsAtFailure answer (openMapping device name passphrase) := by
  refine stops_bind (stops_isActive name) fun active => ?_
  split
  · exact stops_of_settled trivial
  · exact stops_run rfl

/-- To close a mapping stops at a failure. -/
theorem stops_closeMapping (name : String) : StopsAtFailure answer (closeMapping name) := by
  refine stops_bind (stops_isActive name) fun active => ?_
  split
  · exact stops_run rfl
  · exact stops_of_settled trivial

end Encryption

namespace Disk

/-- A look for the format of a device stops at a failure. -/
theorem stops_format (device : Path) : StopsAtFailure answer (format device) := by
  refine stops_command (c := probe device) fun o hcodes => ?_
  have hzero : o.code ≠ some 0 := hcodes 0 List.mem_cons_self
  have hnothing : o.code ≠ some nothingFound := hcodes 2 (List.mem_cons_of_mem _ List.mem_cons_self)
  exact ⟨_, by rw [formatOf, if_neg hzero, if_neg hnothing]⟩

/-- A command that makes a filesystem has to succeed. -/
theorem allowedCodes_maker (device : Path) (fsType : String) (options : List String) :
    (maker device fsType options).allowedCodes = [0] := by
  have hname : ∀ program : String, program.toList.head? ≠ some 'm' → "mkfs." ++ fsType ≠ program := by
    rintro program hhead rfl
    rw [String.toList_append] at hhead
    exact hhead rfl
  exact Command.allowedCodes_eq (hname "blkid" (by decide)) fun h => hname "cryptsetup" (by decide) h.1

/-- To make sure of a filesystem stops at a failure. -/
theorem stops_prepare (source : Path) (fsType : String) (options formatOptions : List String) :
    StopsAtFailure answer (prepare source fsType options formatOptions) := by
  refine stops_bind (stops_format source) fun found => ?_
  cases found with
  | blank =>
    dsimp only [prepareFor]
    split
    · exact stops_of_settled trivial
    · rw [makeFilesystem_eq]
      exact stops_succeeding (allowedCodes_maker _ _ _) _
  | partitioned => exact stops_of_settled trivial
  | filesystem name =>
    dsimp only [prepareFor]
    split <;> exact stops_of_settled trivial

/-- To mount a device as a filesystem stops at a failure. -/
theorem stops_mountFormatted (source target : Path) (fsType : String) (options formatOptions : List String) :
    StopsAtFailure answer (mountFormatted source target fsType options formatOptions) := by
  rw [mountFormatted_eq]
  exact stops_bind (stops_prepare _ _ _ _) fun _ => stops_ask

/-- Runs the command that grows a filesystem of a name. -/
def growAs (device mountPath : Path) (fsType : String) : HostTask Unit :=
  match grower device mountPath fsType with
  | none => throw (.unsupportedGrowth fsType)
  | some c => command c fun o => if o.isSuccess then .ok () else .error (.growFailed c o)

/-- To grow a filesystem is to look for its format, and to grow it as one of that name. -/
theorem grow_eq (device mountPath : Path) :
    grow device mountPath = format device >>= fun found => growAs device mountPath (found.name?.getD "") := by
  refine congrArg (format device >>= ·) (funext fun found => ?_)
  dsimp only [growAs]
  cases grower device mountPath (found.name?.getD "") with
  | none => rfl
  | some c =>
    refine congrArg (askHost (.run c) >>= ·) (funext fun o => ?_)
    dsimp only
    split <;> rfl

/-- There are three programs that grow a filesystem. -/
theorem program_grower {device mountPath : Path} {fsType : String} {c : Command}
    (h : grower device mountPath fsType = some c) : c.program ∈ ["resize2fs", "xfs_growfs", "btrfs"] := by
  unfold grower at h
  split at h
  · cases h
    simp
  · split at h
    · cases h
      simp
    · split at h
      · cases h
        simp
      · nomatch h

/-- A command that grows a filesystem has to succeed. -/
theorem allowedCodes_grower {device mountPath : Path} {fsType : String} {c : Command}
    (h : grower device mountPath fsType = some c) : c.allowedCodes = [0] := by
  have hprogram := program_grower h
  refine Command.allowedCodes_eq (fun hprobe => ?_) fun hstatus => ?_
  · rw [hprobe] at hprogram
    exact absurd hprogram (by decide)
  · rw [hstatus.1] at hprogram
    exact absurd hprogram (by decide)

/-- To grow a filesystem stops at a failure. -/
theorem stops_grow (device mountPath : Path) : StopsAtFailure answer (grow device mountPath) := by
  rw [grow_eq]
  refine stops_bind (stops_format device) fun found => ?_
  unfold growAs
  split
  · exact stops_of_settled trivial
  · rename_i c hgrower
    exact stops_succeeding (allowedCodes_grower hgrower) _

end Disk

namespace MountPoint

/-- To unmount and remove a path stops at a failure. -/
theorem stops_unmountAndRemove (thorough : Bool) (p : Path) : StopsAtFailure answer (unmountAndRemove thorough p) := by
  refine stops_bind stops_ask fun _ => stops_bind (stops_of_settled (settled_seemsFree thorough p)) fun free => ?_
  split
  · exact stops_of_settled (settled_remove p)
  · exact stops_of_settled trivial

/-- To clear a path away stops at a failure. -/
theorem stops_cleanUp (thorough : Bool) (p : Path) : StopsAtFailure answer (cleanUp thorough p) := by
  refine stops_bind (stops_of_settled (only_attempt (only_ask trivial))) fun found => ?_
  split
  · refine stops_bind (stops_of_settled (settled_seemsFree thorough p)) fun free => ?_
    split
    · exact stops_of_settled (settled_remove p)
    · exact stops_unmountAndRemove thorough p
  · split
    · exact stops_of_settled trivial
    · split
      · exact stops_unmountAndRemove thorough p
      · exact stops_of_settled trivial

end MountPoint

namespace Publication

/-- Preparing a target runs no command, and changes no mount. -/
theorem settled_prepareTarget (target : Path) (block : Bool) :
    Only (I := host) HostCall.Settled (prepareTarget target block).run := by
  unfold prepareTarget
  refine Only.except_bind (only_attempt (MountPoint.settled_isFree target)) fun found => ?_
  split
  · trivial
  · split
    · refine Only.except_bind ?_ fun _ => trivial
      unfold makeTarget
      split
      · split
        · exact Only.except_bind (only_ask trivial) fun _ => only_ask trivial
        · exact only_ask trivial
      · exact only_ask trivial
    · trivial

/-- To make sure of an encrypted device stops at a failure. -/
theorem stops_encrypt (device : Path) (passphrase : String) (readonly : Bool) :
    StopsAtFailure answer (encrypt device passphrase readonly) := by
  refine stops_bind (stops_onHost (Disk.stops_format device)) fun found => ?_
  unfold encryptFor
  split
  · split
    · exact stops_of_settled trivial
    · exact stops_onHost (Encryption.stops_run rfl)
  · split <;> exact stops_of_settled trivial

/-- To open an encrypted device stops at a failure. -/
theorem stops_openEncrypted (device : Path) (passphrase : String) (readonly : Bool) :
    StopsAtFailure answer (openEncrypted device passphrase readonly) := by
  cases hname : Encryption.mappingName device with
  | none =>
    rw [openEncrypted, hname]
    exact stops_of_settled trivial
  | some name =>
    rw [openEncrypted_eq hname]
    exact stops_bind (stops_encrypt _ _ _) fun _ =>
      stops_bind (stops_onHost (Encryption.stops_openMapping _ _ _)) fun _ => stops_of_settled trivial

/-- To find the source of a mount stops at a failure. -/
theorem stops_source (device : Path) (o : PublishOptions) : StopsAtFailure answer (source device o) := by
  unfold source
  split
  · exact stops_openEncrypted _ _ _
  · exact stops_of_settled trivial

/-- To mount at a target stops at a failure. -/
theorem stops_mountAt (source target : Path) (o : PublishOptions) (formatArguments : List String) :
    StopsAtFailure answer (mountAt source target o formatArguments) := by
  unfold mountAt
  split
  · exact stops_ask
  · exact Disk.stops_mountFormatted _ _ _ _ _

/-- To publish stops at a failure. -/
theorem stops_publish (device target : Path) (o : PublishOptions) : StopsAtFailure answer (publish device target o) := by
  unfold publish
  split
  · exact stops_of_settled trivial
  · refine stops_bind (stops_onHost (stops_of_settled (settled_prepareTarget target o.block))) fun free => ?_
    split
    · exact stops_bind (stops_source device o) fun source => stops_onHost (stops_mountAt _ _ _ _)
    · exact stops_of_settled trivial

/-- To withdraw stops at a failure. -/
theorem stops_unpublish (target : Path) : StopsAtFailure answer (unpublish target) := by
  refine stops_bind (stops_onHost (stops_of_settled (MountPoint.settled_deviceAt target))) fun found => ?_
  refine stops_bind (stops_onHost (MountPoint.stops_cleanUp true target)) fun _ => ?_
  split
  · exact stops_onHost (Encryption.stops_closeMapping _)
  · exact stops_of_settled trivial

/-- To find the device that is to be grown stops at a failure. -/
theorem stops_grownDevice (device : Path) : StopsAtFailure answer (grownDevice device) := by
  unfold grownDevice
  split
  · exact stops_of_settled trivial
  · refine stops_bind (Encryption.stops_isActive _) fun active => ?_
    split
    · exact stops_bind (Encryption.stops_run rfl) fun _ => stops_of_settled trivial
    · exact stops_of_settled trivial

/-- To grow what is published stops at a failure. -/
theorem stops_grow (path : Path) : StopsAtFailure answer (grow path) := by
  refine stops_bind (stops_onHost (stops_of_settled (MountPoint.settled_deviceAt path))) fun found => ?_
  split
  · exact stops_of_settled trivial
  · exact stops_bind (stops_onHost (stops_grownDevice _)) fun device => stops_onHost (Disk.stops_grow _ _)

end Publication

end VolumeDriver
