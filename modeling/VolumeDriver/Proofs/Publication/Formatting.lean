import VolumeDriver.Proofs.Disk
import VolumeDriver.Proofs.Encryption

/-!
# Only blank devices are formatted

Publishing may encrypt a device and make a filesystem on a device or on its mapping. Each of these comes right after a probe
that says that the device is blank (`Careful.guarded`), and at most one of each is run. The commands of a task are put
together from those of its parts, and so is their care (`Careful.append`).
-/

namespace VolumeDriver

open Program

namespace Command

/-- The command makes its last argument an encrypted device. -/
def encrypts (c : Command) : Bool := c.program = "cryptsetup" && c.args.head? = some "luksFormat"

/-- The command makes a filesystem on its last argument. -/
def makesFilesystem (c : Command) : Bool := "mkfs.".toList.isPrefixOf c.program.toList

/-- What the last argument held is lost. -/
def formats (c : Command) : Bool := c.encrypts || c.makesFilesystem

@[simp]
theorem encrypts_probe (device : Path) : (Disk.probe device).encrypts = false := rfl

@[simp]
theorem makesFilesystem_probe (device : Path) : (Disk.probe device).makesFilesystem = false := by
  have hname : "mkfs.".toList.isPrefixOf "blkid".toList = false := by decide
  exact hname

theorem formats_probe (device : Path) : (Disk.probe device).formats = false := by simp [formats]

theorem makesFilesystem_maker (device : Path) (fsType : String) (options : List String) :
    (Disk.maker device fsType options).makesFilesystem = true := by
  simp [makesFilesystem, Disk.maker, String.toList_append]

theorem encrypts_maker (device : Path) (fsType : String) (options : List String) :
    (Disk.maker device fsType options).encrypts = false := by
  have hname : "mkfs." ++ fsType ≠ "cryptsetup" := by
    intro h
    have hchars := congrArg String.toList h
    simp [String.toList_append] at hchars
  simp [encrypts, Disk.maker, hname]

theorem encrypts_formatCommand (device : Path) (passphrase : String) :
    (Encryption.formatCommand device passphrase).encrypts = true := rfl

/-- A run of the encryption program makes no filesystem. -/
theorem makesFilesystem_of_encryption {c : Command} (h : c.program = Encryption.program) : c.makesFilesystem = false := by
  have hname : "mkfs.".toList.isPrefixOf Encryption.program.toList = false := by decide
  rw [makesFilesystem, h, hname]

end Command

/-- Every command that formats a device comes right after a probe of the device that says that it is blank. -/
def Guarded (cs : List CommandRun) : Prop :=
  ∀ before c answer after, cs = before ++ (c, answer) :: after → c.formats = true →
    ∃ device o, before.getLast? = some (Disk.probe device, .ok o) ∧ o.SaysBlank ∧ c.args.getLast? = some device.text

/-- The commands format blank devices alone, and no more often than this. -/
structure Careful (encryptions filesystems : Nat) (cs : List CommandRun) : Prop where
  guarded : Guarded cs
  encryptions_le : cs.countP (fun x => x.1.encrypts) ≤ encryptions
  filesystems_le : cs.countP (fun x => x.1.makesFilesystem) ≤ filesystems

/-- Guarded commands in a row are guarded: a command and its probe are in the same list. -/
theorem Guarded.append {cs ds : List CommandRun} (hc : Guarded cs) (hd : Guarded ds) : Guarded (cs ++ ds) := by
  intro before c answer after heq hformats
  rcases List.append_eq_append_iff.1 heq with ⟨mid, rfl, htail⟩ | ⟨mid, rfl, htail⟩
  · -- the command is one of the second list, and so is the probe before it
    obtain ⟨device, o, hlast, hblank, harg⟩ := hd mid c answer after htail hformats
    exact ⟨device, o, by rw [List.getLast?_append, hlast, Option.some_or], hblank, harg⟩
  · cases mid with
    | nil =>
      obtain ⟨device, o, hlast, _⟩ := hd [] c answer after htail.symm hformats
      nomatch hlast
    | cons x mid =>
      cases htail
      exact hc before c answer mid rfl hformats

namespace Careful

variable {k l m n : Nat} {cs ds : List CommandRun}

/-- Careful commands in a row are careful, with the formats of both. -/
theorem append (hc : Careful k l cs) (hd : Careful m n ds) : Careful (k + m) (l + n) (cs ++ ds) where
  guarded := hc.guarded.append hd.guarded
  encryptions_le := by
    rw [List.countP_append]
    exact Nat.add_le_add hc.encryptions_le hd.encryptions_le
  filesystems_le := by
    rw [List.countP_append]
    exact Nat.add_le_add hc.filesystems_le hd.filesystems_le

/-- Commands that format nothing. -/
theorem of_harmless (h : ∀ x ∈ cs, x.1.formats = false) : Careful k l cs where
  guarded := by
    rintro before c answer after rfl hformats
    rw [h (c, answer) (by simp)] at hformats
    nomatch hformats
  encryptions_le := by
    have hnone : cs.countP (fun x => x.1.encrypts) = 0 := by
      refine List.countP_eq_zero.2 fun x hx => ?_
      have hformats := h x hx
      simp only [Command.formats, Bool.or_eq_false_iff] at hformats
      simp [hformats.1]
    rw [hnone]
    exact Nat.zero_le k
  filesystems_le := by
    have hnone : cs.countP (fun x => x.1.makesFilesystem) = 0 := by
      refine List.countP_eq_zero.2 fun x hx => ?_
      have hformats := h x hx
      simp only [Command.formats, Bool.or_eq_false_iff] at hformats
      simp [hformats.2]
    rw [hnone]
    exact Nat.zero_le l

theorem nil : Careful k l [] := of_harmless (by simp)

/-- A probe that nothing follows. -/
theorem probe (device : Path) (answer : Except MountError CommandOutput) : Careful k l [(Disk.probe device, answer)] :=
  of_harmless (by simp [Command.formats_probe])

/-- A probe that says that a device is blank, and a command that formats the device. -/
theorem probe_then {device : Path} {o : CommandOutput} {c : Command} (answer : Except MountError CommandOutput)
    (hblank : o.SaysBlank) (harg : c.args.getLast? = some device.text) :
    Careful c.encrypts.toNat c.makesFilesystem.toNat [(Disk.probe device, .ok o), (c, answer)] where
  guarded := by
    rintro before d r after heq hformats
    cases before with
    | nil =>
      simp only [List.nil_append, List.cons.injEq, Prod.mk.injEq] at heq
      obtain ⟨⟨rfl, _⟩, _⟩ := heq
      rw [Command.formats_probe] at hformats
      nomatch hformats
    | cons x before =>
      obtain ⟨rfl, heq⟩ := List.cons.inj heq
      cases before with
      | nil =>
        cases heq
        exact ⟨device, o, rfl, hblank, harg⟩
      | cons y before => simp at heq
  encryptions_le := by
    cases h : c.encrypts <;> simp [h]
  filesystems_le := by
    cases h : c.makesFilesystem <;> simp [h]

/-! ## Tasks -/

section Tasks

variable {σ α β ε : Type} {answer : (c : HostCall) → σ → Except MountError c.Answer × σ}

/-- Careful tasks in a row are careful, with the formats of both. -/
theorem bind {t : ExceptT ε (Program host) α} {f : α → ExceptT ε (Program host) β}
    (ht : ∀ s, Careful k l (HostTask.commands answer t s))
    (hf : ∀ a s, Careful m n (HostTask.commands answer (f a) s)) (s : σ) :
    Careful (k + m) (l + n) (HostTask.commands answer (t >>= f) s) := by
  rw [HostTask.commands_bind]
  refine (ht s).append ?_
  split
  · exact hf _ _
  · exact nil

/-- A task that can run no command that formats. -/
theorem of_only {t : ExceptT ε (Program host) α} (ht : Only (HostCall.Runs fun c => c.formats = false) t.run) (s : σ) :
    Careful k l (HostTask.commands answer t s) :=
  of_harmless (HostTask.of_mem_commands answer ht s)

/-- A task that probes a device, and goes on with what it holds. -/
theorem probed {t : ExceptT ε (Program host) DiskFormat} {f : DiskFormat → ExceptT ε (Program host) α} {device : Path}
    (hcommands : ∀ s, HostTask.commands answer t s = [(Disk.probe device, (answer (.run (Disk.probe device)) s).1)])
    (hanswer : ∀ s s', Program.run (I := host) answer t.run s = (.ok .blank, s') →
      ∃ o, (answer (.run (Disk.probe device)) s).1 = .ok o ∧ o.SaysBlank)
    (hblank : ∀ (o : CommandOutput) s, o.SaysBlank →
      Careful k l ((Disk.probe device, .ok o) :: HostTask.commands answer (f .blank) s))
    (hheld : ∀ format s, format ≠ .blank → Careful k l (HostTask.commands answer (f format) s)) (s : σ) :
    Careful k l (HostTask.commands answer (t >>= f) s) := by
  rw [HostTask.commands_bind, hcommands s]
  rcases hrun : Program.run (I := host) answer t.run s with ⟨_ | format, s'⟩
  · exact probe device _
  · by_cases hformat : format = .blank
    · obtain ⟨o, ho, hsays⟩ := hanswer s s' (by rw [hrun, hformat])
      rw [ho, hformat]
      exact hblank o s' hsays
    · simpa using (probe (k := 0) (l := 0) device _).append (hheld format s' hformat)

end Tasks

end Careful

variable {σ : Type} (answer : (c : HostCall) → σ → Except MountError c.Answer × σ)

namespace Disk

/-- A probe by which a device is taken for blank says so. -/
theorem saysBlank_of_run_format {device : Path} {s s' : σ}
    (h : Program.run (I := host) answer (format device).run s = (.ok .blank, s')) :
    ∃ o, (answer (.run (probe device)) s).1 = .ok o ∧ o.SaysBlank := by
  rw [run_format] at h
  rcases hr : answer (.run (probe device)) s with ⟨e | o, t⟩
  · rw [hr] at h
    nomatch h
  · rw [hr] at h
    exact ⟨o, rfl, formatOf_eq_blank_iff.1 (Prod.mk.inj h).1⟩

/-- A command that makes a filesystem names its device last. -/
theorem getLast?_maker (device : Path) (fsType : String) (options : List String) :
    (maker device fsType options).args.getLast? = some device.text := by
  simp [maker]

/-- To make a filesystem is to run one command. -/
theorem commands_makeFilesystem (device : Path) (fsType : String) (options : List String) (s : σ) :
    HostTask.commands answer (makeFilesystem device fsType options) s =
      [(maker device fsType options, (answer (.run (maker device fsType options)) s).1)] := by
  rw [makeFilesystem, HostTask.commands_bind, HostTask.run_askHost, HostTask.commands_askRun]
  rcases answer (.run (maker device fsType options)) s with ⟨_ | o, s'⟩
  · rfl
  · dsimp only
    split <;> rfl

/-- A filesystem is made on a device that holds nothing, once. -/
theorem careful_mountFormatted (source target : Path) (fsType : String) (options formatOptions : List String) (s : σ) :
    Careful 0 1 (HostTask.commands answer (mountFormatted source target fsType options formatOptions) s) := by
  unfold mountFormatted
  dsimp only
  generalize (if fsType.isEmpty = true then defaultFilesystem else fsType) = chosen
  refine Careful.probed (commands_format answer source) (fun s s' => saysBlank_of_run_format answer) ?_ ?_ s
  · intro o s hblank
    dsimp only
    split
    · rw [HostTask.commands_throw_bind]
      exact Careful.probe source _
    · rw [HostTask.commands_bind_of_quiet _ (fun _ _ => rfl), commands_makeFilesystem]
      have hmake := Careful.probe_then (answer (.run (maker source chosen formatOptions)) s).1 hblank
        (getLast?_maker source chosen formatOptions)
      rw [Command.encrypts_maker, Command.makesFilesystem_maker] at hmake
      exact hmake
  · intro format s hformat
    have hquiet : ∀ cs : List CommandRun, cs = [] → Careful 0 1 cs := by
      rintro cs rfl
      exact Careful.nil
    apply hquiet
    cases format with
    | blank => exact absurd rfl hformat
    | partitioned => rfl
    | filesystem name =>
      dsimp only
      split <;> rfl

end Disk

namespace Encryption

/-- Opening a mapping runs the encryption program, and not to encrypt. -/
theorem only_openMapping (device : Path) (name passphrase : String) :
    Only (I := host) (HostCall.Runs fun c => c.formats = false) (openMapping device name passphrase).run := by
  have hharmless : ∀ c : Command, c.program = Encryption.program → c.encrypts = false → c.formats = false := by
    intro c hprogram hencrypts
    rw [Command.formats, hencrypts, Command.makesFilesystem_of_encryption hprogram, Bool.or_false]
  exact only_open (Q := HostCall.Runs _) (hharmless _ rfl rfl) (hharmless _ rfl rfl)

end Encryption

namespace Publication

open HostTask

/-- Preparing a target runs no command. -/
theorem quiet_prepareTarget (target : Path) (block : Bool) : Quiet (prepareTarget target block) := by
  unfold prepareTarget
  refine Quiet.bind (Quiet.attempt (.of_settled (MountPoint.settled_isFree target))) fun found => ?_
  split
  · exact quiet_pure _
  · split
    · refine Quiet.bind ?_ fun _ => quiet_pure true
      unfold makeTarget
      split
      · split
        · exact Quiet.bind quiet_ask fun _ => quiet_ask
        · exact quiet_ask
      · exact quiet_ask
    · exact quiet_throw _

/-- To look for a format runs one probe as part of a publication too. -/
theorem commands_probe (device : Path) (s : σ) :
    HostTask.commands answer (onHost (Disk.format device)) s =
      [(Disk.probe device, (answer (.run (Disk.probe device)) s).1)] := by
  rw [commands_onHost, Disk.commands_format]

/-- A device is found blank only if its probe says so. -/
theorem saysBlank_of_run_probe {device : Path} {s s' : σ}
    (h : Program.run (I := host) answer (onHost (Disk.format device)).run s = (.ok .blank, s')) :
    ∃ o, (answer (.run (Disk.probe device)) s).1 = .ok o ∧ o.SaysBlank := by
  rw [run_onHost] at h
  rcases hformat : Program.run (I := host) answer (Disk.format device).run s with ⟨_ | format, t⟩
  · rw [hformat] at h
    nomatch h
  · rw [hformat] at h
    cases h
    exact Disk.saysBlank_of_run_format answer hformat

/-- A device is encrypted if it holds nothing, once. -/
theorem careful_openEncrypted (device : Path) (passphrase : String) (readonly : Bool) (s : σ) :
    Careful 1 0 (HostTask.commands answer (openEncrypted device passphrase readonly) s) := by
  unfold openEncrypted
  split
  · exact Careful.nil
  · rename_i name _
    have hopen : ∀ k s, Careful k 0 (HostTask.commands answer (do
        onHost (Encryption.openMapping device name passphrase)
        return Encryption.mappingPath name : Task Path) s) := by
      refine fun k => Careful.of_only (Only.except_bind (only_onHost ?_) fun _ => trivial)
      exact Encryption.only_openMapping device name passphrase
    refine Careful.probed (commands_probe answer device) (fun s s' => saysBlank_of_run_probe answer) ?_ ?_ s
    · intro o s hblank
      dsimp only [DiskFormat.name?]
      split
      · exact Careful.probe device _
      · have hencrypt := Careful.probe_then (answer (.run (Encryption.formatCommand device passphrase)) s).1 hblank
          (show (Encryption.formatCommand device passphrase).args.getLast? = some device.text from rfl)
        rw [Command.encrypts_formatCommand, Command.makesFilesystem_of_encryption rfl] at hencrypt
        rw [HostTask.commands_bind, commands_onHost, Encryption.format, Encryption.commands_run]
        refine Careful.append (m := 0) (n := 0) hencrypt ?_
        split
        · exact hopen 0 _
        · exact Careful.nil
    · intro format s hformat
      cases format with
      | blank => exact absurd rfl hformat
      | partitioned => exact Careful.nil
      | filesystem name =>
        dsimp only [DiskFormat.name?]
        split
        · exact Careful.nil
        · exact hopen 1 s

/-- To find the source of a mount encrypts at most one device and makes no filesystem. -/
theorem careful_source (device : Path) (o : PublishOptions) (s : σ) :
    Careful 1 0 (HostTask.commands answer (source device o) s) := by
  unfold source
  split
  · exact careful_openEncrypted answer device _ o.readonly s
  · exact Careful.nil

/-- A device itself is mounted without a filesystem. -/
theorem careful_mountAt (source target : Path) (o : PublishOptions) (formatArguments : List String) (s : σ) :
    Careful 0 (if o.block then 0 else 1) (HostTask.commands answer (mountAt source target o formatArguments) s) := by
  unfold mountAt
  split
  · exact Careful.nil
  · exact Disk.careful_mountFormatted answer source target o.fsType o.mountOptions formatArguments s

/-- Whatever answers its calls, publishing formats blank devices alone: it encrypts once at most, and makes a filesystem once
at most, and none of a device that is to be bound itself. -/
theorem publish_careful (device target : Path) (o : PublishOptions) (s : σ) :
    Careful 1 (if o.block then 0 else 1) (HostTask.commands answer (publish device target o) s) := by
  unfold publish
  cases o.formatArguments with
  | error e => exact Careful.nil
  | ok formatArguments =>
    have hprepare : ∀ s, Careful 0 0 (HostTask.commands answer (onHost (prepareTarget target o.block)) s) := by
      intro s
      rw [commands_onHost, (quiet_prepareTarget target o.block).commands]
      exact Careful.nil
    have hmount : ∀ (free : Bool) s, Careful 1 (if o.block then 0 else 1) (HostTask.commands answer (do
        if free then
          let source ← source device o
          onHost (mountAt source target o formatArguments) : Task Unit) s) := by
      intro free s
      cases free with
      | false => exact Careful.nil
      | true =>
        have hat : ∀ source s, Careful 0 (if o.block then 0 else 1)
            (HostTask.commands answer (onHost (mountAt source target o formatArguments)) s) := by
          intro source s
          rw [commands_onHost]
          exact careful_mountAt answer source target o formatArguments s
        simpa using Careful.bind (careful_source answer device o) hat s
    simpa using Careful.bind hprepare hmount s

end Publication

end VolumeDriver
