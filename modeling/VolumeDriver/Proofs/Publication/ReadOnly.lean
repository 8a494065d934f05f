import VolumeDriver.Proofs.Publication.Formatting

/-!
# What publishing read-only initializes

The option `ro` stands among the mount options of a publish if it is said to be read only or if `ro` is one of its flags.
Either way no filesystem is made, since the whole list is looked at before one would be. Encrypting looks at the first of the
two alone: a blank device published with the flag `ro` and a passphrase is encrypted, and then not mounted
(`readOnly_initializes_iff`).
-/

namespace VolumeDriver

open HostTask Program

namespace Command

/-- What does not format neither encrypts nor makes a filesystem. -/
theorem encrypts_of_formats {c : Command} (h : c.formats = false) : c.encrypts = false :=
  (Bool.or_eq_false_iff.1 h).1

/-- A command that destroys nothing makes no filesystem. -/
theorem makesFilesystem_of_formats {c : Command} (h : c.formats = false) : c.makesFilesystem = false :=
  (Bool.or_eq_false_iff.1 h).2

end Command

variable {σ : Type} (answer : (c : HostCall) → σ → Except MountError c.Answer × σ)

namespace Disk

/-- To mount read-only takes a probe and no other command. -/
theorem commands_mountFormatted_of_readOnly {source target : Path} {fsType : String} {options formatOptions : List String}
    (h : readOnlyOption ∈ options) (s : σ) :
    commands answer (mountFormatted source target fsType options formatOptions) s =
      [(probe source, (answer (.run (probe source)) s).1)] := by
  unfold mountFormatted
  dsimp only
  generalize (if fsType.isEmpty = true then defaultFilesystem else fsType) = chosen
  rw [commands_bind_of_quiet, commands_format]
  intro format u
  cases format with
  | blank => rw [if_pos h, commands_throw_bind]
  | partitioned => rfl
  | filesystem name =>
    dsimp only
    split <;> rfl

end Disk

namespace Publication

/-- The probe of a device that is to be encrypted, and what follows the answer. -/
theorem commands_probe_bind {α : Type} (device : Path) (f : DiskFormat → Task α) (s : σ) :
    commands answer (onHost (Disk.format device) >>= f) s =
      (Disk.probe device, (answer (.run (Disk.probe device)) s).1) ::
        match answer (.run (Disk.probe device)) s with
        | (.ok o, u) =>
          match Disk.formatOf device o with
          | .ok format => commands answer (f format) u
          | .error _ => []
        | (.error _, _) => [] := by
  rw [commands_bind, commands_probe, run_onHost, Disk.run_format]
  rcases answer (.run (Disk.probe device)) s with ⟨_ | o, u⟩
  · rfl
  · dsimp only
    cases Disk.formatOf device o <;> rfl

/-- Opening the mapping of a device encrypts nothing. -/
theorem encrypts_open {device : Path} {name passphrase : String} {s : σ} {x : CommandRun}
    (hx : x ∈ commands answer (do
      onHost (Encryption.openMapping device name passphrase)
      return Encryption.mappingPath name : Task Path) s) : x.1.encrypts = false := by
  refine Command.encrypts_of_formats (of_mem_commands (Q := fun c => c.formats = false) answer ?_ s x hx)
  exact Only.except_bind (only_onHost (Encryption.only_openMapping device name passphrase)) fun _ => trivial

/-- A device is encrypted on opening it exactly if it may be written to, can be mapped, and its probe says that it is blank. -/
theorem encrypts_openEncrypted_iff (device : Path) (passphrase : String) (readonly : Bool) (s : σ) :
    (∃ x ∈ commands answer (openEncrypted device passphrase readonly) s, x.1.encrypts = true) ↔
      readonly = false ∧ Encryption.mappingName device ≠ none ∧
        ∃ o, (answer (.run (Disk.probe device)) s).1 = .ok o ∧ o.SaysBlank := by
  unfold openEncrypted
  cases hname : Encryption.mappingName device with
  | none => simp [commands]
  | some name =>
    dsimp only
    rw [commands_probe_bind]
    rcases answer (.run (Disk.probe device)) s with ⟨e | o, u⟩
    · simp
    · have hblank : (∃ o', (Except.ok o : Except MountError CommandOutput) = .ok o' ∧ o'.SaysBlank) ↔
          Disk.formatOf device o = .ok .blank := by
        rw [Disk.formatOf_eq_blank_iff]
        simp
      dsimp only
      rw [hblank]
      cases hformat : Disk.formatOf device o with
      | error e => simp
      | ok format =>
        cases format with
        | blank =>
          dsimp only [DiskFormat.name?]
          cases readonly with
          | true => simp
          | false =>
            rw [if_neg Bool.false_ne_true, commands_bind, commands_onHost, Encryption.format, Encryption.commands_run]
            simp [Command.encrypts_formatCommand]
        | partitioned => simp [DiskFormat.name?, DiskFormat.partitionedName, Encryption.formatName]
        | filesystem found =>
          dsimp only [DiskFormat.name?]
          split
          · simp
          · refine iff_of_false ?_ (by simp)
            rintro ⟨x, hx, hencrypts⟩
            rcases List.mem_cons.1 hx with rfl | hx
            · simp at hencrypts
            · rw [encrypts_open answer hx] at hencrypts
              cases hencrypts

/-- A device is encrypted on its way to be mounted exactly if a passphrase asks for it, and opening it encrypts it. -/
theorem encrypts_source_iff (device : Path) (o : PublishOptions) (s : σ) :
    (∃ x ∈ commands answer (source device o) s, x.1.encrypts = true) ↔
      o.readonly = false ∧ o.secret ≠ none ∧ Encryption.mappingName device ≠ none ∧
        ∃ output, (answer (.run (Disk.probe device)) s).1 = .ok output ∧ output.SaysBlank := by
  unfold source
  cases hsecret : o.secret with
  | none => simp [commands]
  | some passphrase => simpa using encrypts_openEncrypted_iff answer device passphrase o.readonly s

/-- Neither a device nor a filesystem is formatted to be mounted with the option `ro`. -/
theorem formats_mountAt_of_readOnly {source target : Path} {o : PublishOptions} {arguments : List String}
    (h : Disk.readOnlyOption ∈ o.mountOptions) {s : σ} {x : CommandRun}
    (hx : x ∈ commands answer (onHost (mountAt source target o arguments)) s) : x.1.formats = false := by
  rw [commands_onHost, mountAt] at hx
  split at hx
  · nomatch hx
  · rw [Disk.commands_mountFormatted_of_readOnly answer h, List.mem_singleton] at hx
    rw [hx, Command.formats_probe]

/-- What publishing runs once its target is free. -/
theorem commands_publish_of_prepared {device target : Path} {o : PublishOptions} {arguments : List String}
    (harguments : o.formatArguments = .ok arguments) (s : σ) :
    commands answer (publish device target o) s =
      match Program.run (I := host) answer (prepareTarget target o.block).run s with
      | (.ok true, u) =>
        commands answer (do
          let source ← source device o
          onHost (mountAt source target o arguments)) u
      | _ => [] := by
  rw [publish, harguments]
  dsimp only
  rw [commands_bind, commands_onHost, (quiet_prepareTarget target o.block).commands, List.nil_append, run_onHost]
  rcases Program.run (I := host) answer (prepareTarget target o.block).run s with ⟨_ | _ | _, u⟩ <;> rfl

/-- Past the target, what a publish with the option `ro` runs after opening the device formats nothing. -/
theorem commands_source_mount_of_readOnly {device target : Path} {o : PublishOptions} {arguments : List String}
    (h : Disk.readOnlyOption ∈ o.mountOptions) (s : σ) :
    ∃ rest, commands answer (do
        let source ← source device o
        onHost (mountAt source target o arguments)) s = commands answer (source device o) s ++ rest ∧
      ∀ x ∈ rest, x.1.formats = false := by
  rw [commands_bind]
  refine ⟨_, rfl, fun x hx => ?_⟩
  split at hx
  · exact formats_mountAt_of_readOnly answer h hx
  · nomatch hx

/-- The target is free, and then the probe of the device says that it is blank. -/
def FindsBlank (device target : Path) (o : PublishOptions) (s : σ) : Prop :=
  ∃ u output, Program.run (I := host) answer (prepareTarget target o.block).run s = (.ok true, u) ∧
    (answer (.run (Disk.probe device)) u).1 = .ok output ∧ output.SaysBlank

/-- A publish with the option `ro` makes no filesystem. It encrypts a device exactly if it is not itself said to be read only
(so that `ro` is one of its flags), has a passphrase and format options that can be read, and finds a device that can be mapped
blank. -/
theorem readOnly_initializes_iff {device target : Path} {o : PublishOptions} (h : Disk.readOnlyOption ∈ o.mountOptions)
    (s : σ) :
    (∀ x ∈ commands answer (publish device target o) s, x.1.makesFilesystem = false) ∧
      ((∃ x ∈ commands answer (publish device target o) s, x.1.encrypts = true) ↔
        o.readonly = false ∧ o.secret ≠ none ∧ Encryption.mappingName device ≠ none ∧
          (∃ arguments, o.formatArguments = .ok arguments) ∧ FindsBlank answer device target o s) := by
  cases harguments : o.formatArguments with
  | error e =>
    have hnone : commands answer (publish device target o) s = [] := by rw [publish, harguments]; rfl
    simp [hnone]
  | ok arguments =>
    rw [commands_publish_of_prepared answer harguments]
    rcases hrun : Program.run (I := host) answer (prepareTarget target o.block).run s with ⟨e | _ | _, u⟩
    · simp [FindsBlank, hrun]
    · simp [FindsBlank, hrun]
    · dsimp only
      obtain ⟨rest, heq, hrest⟩ := commands_source_mount_of_readOnly answer h u
      rw [heq]
      constructor
      · intro x hx
        rcases List.mem_append.1 hx with hx | hx
        · have hnone := List.countP_eq_zero.1 (Nat.le_zero.1 (careful_source answer device o u).filesystems_le) x hx
          simpa using hnone
        · exact Command.makesFilesystem_of_formats (hrest x hx)
      · have hopening : (∃ x ∈ commands answer (source device o) u ++ rest, x.1.encrypts = true) ↔
            ∃ x ∈ commands answer (source device o) u, x.1.encrypts = true := by
          refine ⟨?_, fun ⟨x, hx, hencrypts⟩ => ⟨x, List.mem_append_left _ hx, hencrypts⟩⟩
          rintro ⟨x, hx, hencrypts⟩
          rcases List.mem_append.1 hx with hx | hx
          · exact ⟨x, hx, hencrypts⟩
          · rw [Command.encrypts_of_formats (hrest x hx)] at hencrypts
            nomatch hencrypts
        rw [hopening, encrypts_source_iff]
        simp [FindsBlank, hrun]

/-- A host on which every device is blank and no mapping is active, with the directory `/t`. -/
def blankHost : MemoryHost ToolScript where
  tools := ⟨.ofList [
    ("blkid", [{ replies := [⟨some Disk.nothingFound, ""⟩] }]),
    ("cryptsetup", [{ firstArg := some "status", replies := [⟨some Encryption.inactive, ""⟩] }])]⟩
  files := Files.FileTree.put {} ["t"] (.directory 0o750)

/-- A filesystem mounted with the flag `ro`, from an encrypted device. -/
def flaggedReadOnly : PublishOptions where
  flags := ["ro"]
  passphrase := some "secret"

/-- A publish with the flag `ro` and a passphrase, which makes no filesystem and encrypts the blank device. -/
theorem readOnly_initializes_flagged :
    Disk.readOnlyOption ∈ flaggedReadOnly.mountOptions ∧
      (∀ x ∈ commands (MemoryHost.answer ToolScript.toolbox) (publish ⟨"/dev/sdb"⟩ ⟨"/t"⟩ flaggedReadOnly) blankHost,
        x.1.makesFilesystem = false) ∧
      ((∃ x ∈ commands (MemoryHost.answer ToolScript.toolbox) (publish ⟨"/dev/sdb"⟩ ⟨"/t"⟩ flaggedReadOnly) blankHost,
          x.1.encrypts = true) ↔
        flaggedReadOnly.readonly = false ∧ flaggedReadOnly.secret ≠ none ∧ Encryption.mappingName ⟨"/dev/sdb"⟩ ≠ none ∧
          (∃ arguments, flaggedReadOnly.formatArguments = .ok arguments) ∧
          FindsBlank (MemoryHost.answer ToolScript.toolbox) ⟨"/dev/sdb"⟩ ⟨"/t"⟩ flaggedReadOnly blankHost) :=
  ⟨by decide, readOnly_initializes_iff _ (by decide) blankHost⟩

/-- With the flag `ro` a blank device is encrypted, and only then refused. -/
theorem blank_device_encrypted_readOnly :
    Disk.readOnlyOption ∈ flaggedReadOnly.mountOptions ∧ flaggedReadOnly.block = false ∧
      (commands (MemoryHost.answer ToolScript.toolbox) (publish ⟨"/dev/sdb"⟩ ⟨"/t"⟩ flaggedReadOnly) blankHost).map (·.1) =
        [Disk.probe ⟨"/dev/sdb"⟩, Encryption.formatCommand ⟨"/dev/sdb"⟩ "secret", Encryption.statusCommand "sdb",
          Encryption.openCommand ⟨"/dev/sdb"⟩ "sdb" "secret", Disk.probe ⟨"/dev/mapper/sdb"⟩] ∧
      (blankHost.perform ToolScript.toolbox (publish ⟨"/dev/sdb"⟩ ⟨"/t"⟩ flaggedReadOnly)).1.isOk = false := by
  decide +kernel

end Publication

end VolumeDriver
