import VolumeDriver.Proofs.Publication.Attachment
import VolumeDriver.Proofs.Publication.Withdrawal

/-!
# A device with a passphrase is never exposed

With a passphrase a device is used through its mapping alone: what is mounted is the mapping, and a filesystem is made on the
mapping if it is made at all, whatever the tools answer (`shields_publish`). Making the device ready takes commands, and of these
one alone makes a filesystem (`ran_makeReady`); the one mount that follows is listed as what is mounted, since nothing is mounted at
the path of the mapping itself.
-/

namespace VolumeDriver

open Program HostTask

/-- The path is `/dev/mapper/` and the file name of a device, and does not lead to the device itself. -/
def Path.IsMappingOf (p device : Path) : Prop :=
  (∃ name, device.fileName = some name ∧ p.text = "/dev/mapper/" ++ name) ∧ p.same device = false

/-- The path of a mapping does not lead to a device that is none. -/
theorem Path.isMappingOf_mappingPath {device : Path} {name : String} (h : Encryption.mappingName device = some name)
    (houtside : device.mapping = none) : (Encryption.mappingPath name).IsMappingOf device := by
  refine ⟨⟨name, h, Encryption.text_mappingPath h⟩, decide_eq_false fun hsame => ?_⟩
  have hmapping := Devices.mapping_mappingPath h
  rw [Path.mapping, Path.fileName, hsame] at hmapping
  have hboth : some name = none := hmapping.symm.trans houtside
  cases hboth

namespace HostEvent

/-- If something was mounted, it was the mapping of the device, and if a filesystem was made, it was made on that. -/
def UsesMapping (device : Path) : HostEvent → Prop
  | mounted source _ _ => source.IsMappingOf device
  | ran c _ => c.makesFilesystem = true → c.device.IsMappingOf device
  | unmounted _ => True

/-- Nothing was mounted, and no device formatted. -/
def Harmless : HostEvent → Prop
  | mounted _ _ _ => False
  | ran c _ => c.formats = false
  | unmounted _ => True

end HostEvent

namespace Publication

variable {τ : Type} (tools : Toolbox τ) {device target : Path} {o : PublishOptions} {arguments : List String} {passphrase name : String}

/-! ## Making a device ready -/

/-- At a device that holds something else than an encrypted volume a look is taken, and nothing more. -/
theorem makeReady_of_foreign (arguments : List String) {format : String} {found : DiskFormat} {s : MemoryHost τ} (hsecret : o.secret = some passphrase)
    (hname : Encryption.mappingName device = some name)
    (hfound : Disk.formatOf device (tools.run (Disk.probe device) s.tools).1 = .ok found) (hformat : found.name? = some format)
    (hne : format ≠ Encryption.formatName) :
    s.perform tools (makeReady device o arguments) =
      (.error (.notEncrypted device format), (s.run tools (Disk.probe device)).2) := by
  have hprobe : s.perform tools (Disk.format device) = (.ok found, (s.run tools (Disk.probe device)).2) := by
    rw [MemoryHost.perform, Disk.run_format, ← hfound]
    rfl
  have hencrypt : s.perform tools (encrypt device passphrase o.readonly) =
      (.error (.notEncrypted device format), (s.run tools (Disk.probe device)).2) := by
    rw [encrypt, MemoryHost.perform_bind, MemoryHost.perform_onHost, hprobe]
    dsimp only [mapError_ok, encryptFor]
    rw [hformat]
    dsimp only
    rw [if_pos hne]
    rfl
  rw [makeReady, unlock, hsecret, hname]
  dsimp only
  rw [MemoryHost.perform_bind, MemoryHost.perform_bind, hencrypt]

/-- Of the commands that make a device ready one alone makes a filesystem, and that on the mapping. -/
theorem ran_makeReady (arguments : List String) (hsecret : o.secret = some passphrase) (hname : Encryption.mappingName device = some name)
    (houtside : device.mapping = none) (s : MemoryHost τ) :
    MemoryHost.RanSince (fun c => c.makesFilesystem = true → c.device.IsMappingOf device) s
      (s.perform tools (makeReady device o arguments)).2 := by
  have hspared : ∀ {c : Command}, c.makesFilesystem = false → c.makesFilesystem = true → c.device.IsMappingOf device :=
    fun hfalse htrue => nomatch htrue.symm.trans hfalse
  refine MemoryHost.ranSince_of_commands tools (only_makeReady ?_ ?_ ?_) s
  · intro passphrase name _ _
    exact ⟨⟨_, rfl, hspared (Command.makesFilesystem_probe device)⟩,
      ⟨_, rfl, hspared (Command.makesFilesystem_of_encryption rfl)⟩,
      ⟨_, rfl, hspared (Command.makesFilesystem_of_encryption rfl)⟩,
      ⟨_, rfl, hspared (Command.makesFilesystem_of_encryption rfl)⟩⟩
  · exact ⟨_, rfl, hspared (Command.makesFilesystem_probe _)⟩
  · refine ⟨_, rfl, fun _ => ?_⟩
    have hdevice : (Disk.maker (mountedDevice device o) (Disk.chosen o.fsType) arguments).device = mountedDevice device o := by
      simp [Command.device, Disk.maker]
    rw [hdevice, mountedDevice_of_name hsecret hname]
    exact Path.isMappingOf_mappingPath hname houtside

/-! ## Publishing -/

/-- A device without a file name is refused before any command. -/
theorem publish_of_nameless {s : MemoryHost τ} (harguments : o.formatArguments = .ok arguments)
    (hsecret : o.secret = some passphrase) (hname : Encryption.mappingName device = none)
    (hfree : (s.perform tools (MountPoint.isFree target)).1 ≠ .ok false) :
    ∃ e, (s.perform tools (publish device target o)).1 = .error e ∧ (s.perform tools (publish device target o)).2.log = s.log ∧
      ((s.perform tools (prepareTarget target o.block)).1 = .ok true → e = .notADevice device) := by
  obtain ⟨files, ⟨e, hprepare, hpublish⟩ | ⟨hprepare, _⟩ | ⟨_, hpublish⟩⟩ :=
    publish_cases tools device target harguments s
  · rw [hpublish, hprepare]
    exact ⟨_, rfl, rfl, nofun⟩
  · exact absurd (taken_of_prepareTarget tools hprepare) hfree
  · rw [perform_attach, makeReady_of_nameless tools hsecret hname] at hpublish
    rw [hpublish]
    exact ⟨_, rfl, rfl, fun _ => rfl⟩

/-- A device that holds something else is refused with nothing mounted and nothing formatted. -/
theorem publish_of_foreign {format : String} {found : DiskFormat} {s : MemoryHost τ} (harguments : o.formatArguments = .ok arguments)
    (hsecret : o.secret = some passphrase) (hname : Encryption.mappingName device = some name)
    (hfree : (s.perform tools (MountPoint.isFree target)).1 ≠ .ok false)
    (hfound : Disk.formatOf device (tools.run (Disk.probe device) s.tools).1 = .ok found) (hformat : found.name? = some format)
    (hne : format ≠ Encryption.formatName) :
    ∃ e events, (s.perform tools (publish device target o)).1 = .error e ∧
      (s.perform tools (publish device target o)).2.log = s.log ++ events ∧ ∀ x ∈ events, x.Harmless := by
  obtain ⟨files, ⟨e, _, hpublish⟩ | ⟨hprepare, _⟩ | ⟨_, hpublish⟩⟩ :=
    publish_cases tools device target harguments s
  · rw [hpublish]
    exact ⟨_, [], rfl, (List.append_nil _).symm, by simp⟩
  · exact absurd (taken_of_prepareTarget tools hprepare) hfree
  · have hready := makeReady_of_foreign (s := { s with files := files }) tools arguments hsecret hname hfound hformat hne
    rw [perform_attach, hready] at hpublish
    rw [hpublish]
    exact ⟨_, [.ran (Disk.probe device) _], rfl, rfl, by simp [HostEvent.Harmless, Command.formats_probe]⟩

/-- Whatever is mounted, and whatever a filesystem is made on, is the mapping. -/
theorem publish_usesMapping (target : Path) {s : MemoryHost τ} (harguments : o.formatArguments = .ok arguments)
    (hsecret : o.secret = some passphrase) (hname : Encryption.mappingName device = some name)
    (houtside : device.mapping = none)
    (hunlisted : ∀ e ∈ s.entries, e.path.same (Encryption.mappingPath name) = false) :
    ∃ events, (s.perform tools (publish device target o)).2.log = s.log ++ events ∧ ∀ x ∈ events, x.UsesMapping device := by
  obtain ⟨files, ⟨e, _, hpublish⟩ | ⟨_, hpublish⟩ | ⟨_, hpublish⟩⟩ :=
    publish_cases tools device target harguments s <;> rw [hpublish]
  · exact ⟨[], (List.append_nil _).symm, by simp⟩
  · exact ⟨[], (List.append_nil _).symm, by simp⟩
  rw [perform_attach]
  obtain ⟨ran, hran, hrun⟩ := ran_makeReady tools arguments hsecret hname houtside { s with files := files }
  have hcommands : ∀ x ∈ ran.map fun x => HostEvent.ran x.1 x.2, x.UsesMapping device := by
    intro x hx
    obtain ⟨y, hy, rfl⟩ := List.mem_map.1 hx
    exact hran y hy
  rcases hready : MemoryHost.perform tools (makeReady device o arguments) { s with files := files } with ⟨e | _, u⟩
  · rw [hready] at hrun
    exact ⟨_, congrArg MemoryHost.log hrun, hcommands⟩
  · rw [hready] at hrun
    replace hrun : u = _ := hrun
    obtain ⟨fsType, options, hmount⟩ := mount_mountRequest (mountedDevice device o) target o u
    have hlisted : u.listedDevice (mountedDevice device o) options = Encryption.mappingPath name := by
      rw [mountedDevice_of_name hsecret hname]
      refine MemoryHost.listedDevice_of_unlisted ?_ options
      rw [hrun]
      exact hunlisted
    rw [hlisted] at hmount
    refine ⟨ran.map (fun x => .ran x.1 x.2) ++ [.mounted (Encryption.mappingPath name) (u.resolve target) fsType], ?_, ?_⟩
    · dsimp only
      rw [hmount, ← List.append_assoc]
      exact congrArg (· ++ _) (congrArg MemoryHost.log hrun)
    · refine List.forall_mem_append.2 ⟨hcommands, ?_⟩
      simpa [HostEvent.UsesMapping] using Path.isMappingOf_mappingPath hname houtside

/-- These events are what a publish adds to the log. They use the mapping of the device. A device that holds something else is
refused with nothing mounted and nothing formatted, and one without a file name before any command. -/
structure Shields (device target : Path) (o : PublishOptions) (s : MemoryHost τ) (events : List HostEvent) : Prop where
  logged : (s.perform tools (publish device target o)).2.log = s.log ++ events
  mapped : ∀ x ∈ events, x.UsesMapping device
  foreign : ∀ found format, Disk.formatOf device (tools.run (Disk.probe device) s.tools).1 = .ok found →
    found.name? = some format → format ≠ "crypto_LUKS" →
    (∃ e, (s.perform tools (publish device target o)).1 = .error e) ∧ ∀ x ∈ events, x.Harmless
  nameless : device.fileName = none → events = [] ∧ ∃ e, (s.perform tools (publish device target o)).1 = .error e ∧
    ((s.perform tools (prepareTarget target o.block)).1 = .ok true → e = .notADevice device)

/-- Whatever the tools do, a device with a passphrase is shielded at every target that is not a mount point yet, unless the device is
a mapping itself or something is mounted at the path of its mapping. -/
theorem shields_publish {s : MemoryHost τ} (harguments : o.formatArguments = .ok arguments) (hsecret : o.secret = some passphrase)
    (houtside : device.mapping = none)
    (hfree : (s.perform tools (MountPoint.isFree target)).1 ≠ .ok false)
    (hunlisted : ∀ name, device.fileName = some name → ∀ e ∈ s.entries, e.path.same (Encryption.mappingPath name) = false) :
    ∃ events, Shields tools device target o s events := by
  cases hname : Encryption.mappingName device with
  | none =>
    obtain ⟨e, herror, hlog, htold⟩ := publish_of_nameless tools harguments hsecret hname hfree
    exact ⟨[],
      { logged := by rw [hlog, List.append_nil]
        mapped := by simp
        foreign := fun _ _ _ _ _ => ⟨⟨e, herror⟩, by simp⟩
        nameless := fun _ => ⟨rfl, e, herror, htold⟩ }⟩
  | some name =>
    obtain ⟨events, hlog, hmapped⟩ :=
      publish_usesMapping tools target harguments hsecret hname houtside (hunlisted name hname)
    refine ⟨events,
      { logged := hlog
        mapped := hmapped
        foreign := fun found format hfound hformat hne => ?_
        nameless := fun hnone => nomatch hname.symm.trans hnone }⟩
    obtain ⟨e, events', herror, hlog', hharmless⟩ :=
      publish_of_foreign tools harguments hsecret hname hfree hfound hformat hne
    rw [List.append_cancel_left (hlog.symm.trans hlog')]
    exact ⟨⟨e, herror⟩, hharmless⟩

/-- A blank device, and another that is mounted elsewhere. -/
theorem shields_publish_blank :
    let s : MemoryHost MappingTools := { tools := {}, entries := [⟨⟨"/dev/sdc"⟩, ⟨"/c"⟩, "ext4", [], 0, 0⟩] }
    let o : PublishOptions := { passphrase := some "secret" }
    (o.formatArguments = .ok [] ∧ o.secret = some "secret" ∧
        (⟨"/dev/sdb"⟩ : Path).mapping = none ∧
        (s.perform MappingTools.toolbox (MountPoint.isFree ⟨"/t"⟩)).1 ≠ .ok false ∧
        ∀ name, (⟨"/dev/sdb"⟩ : Path).fileName = some name →
          ∀ e ∈ s.entries, e.path.same (Encryption.mappingPath name) = false) ∧
      ∃ events, Shields MappingTools.toolbox ⟨"/dev/sdb"⟩ ⟨"/t"⟩ o s events := by
  intro s o
  have hname : (⟨"/dev/sdb"⟩ : Path).fileName = some "sdb" := by decide +kernel
  have hunlisted : ∀ name, (⟨"/dev/sdb"⟩ : Path).fileName = some name →
      ∀ e ∈ s.entries, e.path.same (Encryption.mappingPath name) = false := by
    intro name h
    cases hname.symm.trans h
    decide +kernel
  have hfree : (s.perform MappingTools.toolbox (MountPoint.isFree ⟨"/t"⟩)).1 ≠ .ok false := by
    have hmissing : (s.perform MappingTools.toolbox (MountPoint.isFree ⟨"/t"⟩)).1.isOk = false := by decide +kernel
    intro h
    rw [h] at hmissing
    nomatch hmissing
  have harguments : o.formatArguments = .ok [] := by rfl
  have hsecret : o.secret = some "secret" := by rfl
  have houtside : (⟨"/dev/sdb"⟩ : Path).mapping = none := by decide +kernel
  exact ⟨⟨harguments, hsecret, houtside, hfree, hunlisted⟩,
    shields_publish MappingTools.toolbox harguments hsecret houtside hfree hunlisted⟩

end Publication

end VolumeDriver
