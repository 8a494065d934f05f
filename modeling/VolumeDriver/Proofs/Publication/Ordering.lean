import VolumeDriver.Proofs.Publication.Failure
import VolumeDriver.Proofs.Publication.Formatting

/-!
# The order of the steps

Publishing opens a mapping only after it encrypted the device, if it had to, and mounts or makes a filesystem only when the mapping
is active. Withdrawing closes a mapping only when the target is clear and the mapping is active. Growing asks for the status of the
mapping first, and the answer says which device the filesystem is looked for on. Each of the three stops at the first step that
fails. All of this holds of every run, whatever answers (`in_order`).
-/

namespace VolumeDriver

open HostTask Program

namespace Command

/-- The command opens a mapping. -/
def opens (c : Command) : Bool := c.program = "cryptsetup" && c.args.head? = some "luksOpen"

/-- The command closes a mapping. -/
def closes (c : Command) : Bool := c.program = "cryptsetup" && c.args.head? = some "luksClose"

/-- The command asks for the status of a mapping. -/
def asksStatus (c : Command) : Bool := c.program = "cryptsetup" && c.args.head? = some "status"

/-- The command looks for a filesystem, or grows one. -/
def seeksFilesystem (c : Command) : Bool := c.program ∈ ["blkid", "resize2fs", "xfs_growfs", "btrfs"]

/-- The commands that ask for the status of a mapping, by program and first argument. -/
theorem asksStatus_iff {c : Command} : c.asksStatus = true ↔ c.program = "cryptsetup" ∧ c.args.head? = some "status" := by
  simp [asksStatus]

/-- The commands that close a mapping, by program and first argument. -/
theorem closes_iff {c : Command} : c.closes = true ↔ c.program = "cryptsetup" ∧ c.args.head? = some "luksClose" := by
  simp [closes]

end Command

namespace HostExchange

/-- A mount, or a command that makes a filesystem. -/
def UsesDevice (x : HostExchange) : Prop := x.Is Command.makesFilesystem ∨ ∃ m, x.1 = .mount m

/-- The command looks for a filesystem on a device, or grows the filesystem of the device, which is mounted at a path. -/
def SeeksOn (device mountPath : Path) (x : HostExchange) : Prop :=
  x.1 = .run (Disk.probe device) ∨ ∃ fsType c, Disk.grower device mountPath fsType = some c ∧ x.1 = .run c

/-- The mapping of a device is active: it was opened, or its status says so. -/
def FindsActive (device : Path) (passphrase : String) (x : HostExchange) : Prop :=
  ∃ name, Encryption.mappingName device = some name ∧
    (x.Ended (Encryption.openCommand device name passphrase) 0 ∨ x.Ended (Encryption.statusCommand name) 0)

/-- A command that closes a mapping asks for no status. -/
theorem not_asksStatus_of_closes {x : HostExchange} (h : x.Is Command.closes) : ¬ x.Is Command.asksStatus := by
  obtain ⟨c, reply⟩ := x
  cases c with
  | run c =>
    intro hasks
    have hclose := (Command.closes_iff.1 h).2
    have hstatus := (Command.asksStatus_iff.1 hasks).2
    exact absurd (hclose.symm.trans hstatus) (by decide)
  | _ => exact h.elim

/-- A command that looks for a filesystem asks for no status. -/
theorem SeeksOn.not_asksStatus {device mountPath : Path} {x : HostExchange} (h : x.SeeksOn device mountPath) :
    ¬ x.Is Command.asksStatus := by
  rcases h with hprobe | ⟨fsType, c, hgrower, hrun⟩
  · intro hasks
    nomatch (is_iff_of_run hprobe).1 hasks
  · intro hasks
    have hprogram := Disk.program_grower hgrower
    rw [(Command.asksStatus_iff.1 ((is_iff_of_run hrun).1 hasks)).1] at hprogram
    exact absurd hprogram (by decide)

end HostExchange

variable {σ : Type} (answer : (c : HostCall) → σ → Except MountError c.Answer × σ)

/-! ## Mappings -/

namespace Encryption

/-- A look at the status of a mapping is one step. -/
theorem steps_isActive (name : String) (s : σ) :
    steps answer (isActive name) s = [⟨.run (statusCommand name), (answer (.run (statusCommand name)) s).1⟩] := by
  rw [isActive_eq, steps_command]

theorem steps_run (c : Command) (s : σ) : steps answer (run c) s = [⟨.run c, (answer (.run c) s).1⟩] := by
  rw [run_eq, steps_command]

/-- The code of its status says whether a mapping is active. -/
theorem isActive_ok {name : String} {active : Bool} {s : σ} (h : result answer (isActive name) s = .ok active) :
    ∃ y, steps answer (isActive name) s = [y] ∧ y.Ended (statusCommand name) (if active then 0 else 4) := by
  rw [isActive_eq] at h ⊢
  obtain ⟨o, hsteps, hread⟩ := command_ok answer h
  refine ⟨_, hsteps, rfl, ?_⟩
  unfold readStatus at hread
  split at hread
  · cases hread
    assumption
  · split at hread
    · cases hread
      assumption
    · nomatch hread

/-- A command that had to succeed has done so. -/
theorem run_ok {c : Command} {s : σ} (h : result answer (run c) s = .ok ()) :
    ∃ y, steps answer (run c) s = [y] ∧ y.Ended c 0 := by
  rw [run_eq] at h ⊢
  obtain ⟨o, hsteps, hread⟩ := command_ok answer h
  refine ⟨_, hsteps, rfl, ?_⟩
  split at hread
  · rename_i hsuccess
    show o.code = some 0
    exact of_decide_eq_true hsuccess
  · nomatch hread

/-- What was opened was found active, or a command opened it. -/
theorem openMapping_ok {device : Path} {name passphrase : String} {s : σ}
    (h : result answer (openMapping device name passphrase) s = .ok ()) :
    ∃ y ∈ steps answer (openMapping device name passphrase) s,
      y.Ended (openCommand device name passphrase) 0 ∨ y.Ended (statusCommand name) 0 := by
  rw [openMapping_eq] at h ⊢
  rcases bind_cases answer (isActive name) (fun active => if active then pure () else run (openCommand device name passphrase)) s
    with ⟨e, _, herror, _⟩ | ⟨active, hactive, hresult, hsteps⟩
  · cases herror.symm.trans h
  · rw [hresult] at h
    rw [hsteps]
    obtain ⟨y, hstatus, hended⟩ := isActive_ok answer hactive
    cases active with
    | true => exact ⟨y, by simp [hstatus], Or.inr hended⟩
    | false =>
      obtain ⟨z, hopen, hopened⟩ := run_ok answer h
      refine ⟨z, List.mem_append_right _ ?_, Or.inl hopened⟩
      simp [hopen]

/-- To close a mapping takes a look at its status, and one more command if that says that the mapping is active. -/
theorem steps_closeMapping (name : String) (s : σ) :
    (∃ y, steps answer (closeMapping name) s = [y] ∧ y.1 = .run (statusCommand name)) ∨
      ∃ y z, steps answer (closeMapping name) s = [y, z] ∧ y.Ended (statusCommand name) 0 ∧ z.1 = .run (closeCommand name) := by
  rcases bind_cases answer (isActive name) (fun active => if active then run (closeCommand name) else pure ()) s
    with ⟨e, _, _, hsteps⟩ | ⟨active, hactive, _, hsteps⟩
  · exact Or.inl ⟨_, hsteps.trans (steps_isActive answer name s), rfl⟩
  · obtain ⟨y, hstatus, hended⟩ := isActive_ok answer hactive
    cases active with
    | false => exact Or.inl ⟨y, hsteps.trans (by rw [hstatus]; rfl), hended.1⟩
    | true => exact Or.inr ⟨y, _, hsteps.trans (by rw [hstatus, if_pos rfl, steps_run]; rfl), hended, rfl⟩

/-- A mapping is closed only after its status said that it is active, with nothing else in between. -/
theorem active_before_closing {name : String} {s : σ} {before after : List HostExchange} {x : HostExchange}
    (h : steps answer (closeMapping name) s = before ++ x :: after) (hx : x.Is Command.closes) :
    ∃ y, before = [y] ∧ after = [] ∧ y.Ended (statusCommand name) 0 := by
  have hstatus : ∀ {y : HostExchange}, y.1 = .run (statusCommand name) → ¬ y.Is Command.closes := fun hy hcloses =>
    nomatch (HostExchange.is_iff_of_run hy).1 hcloses
  rcases steps_closeMapping answer name s with ⟨y, hsteps, hy⟩ | ⟨y, z, hsteps, hended, _⟩ <;>
    rw [hsteps] at h
  · obtain rfl : x = y := List.mem_singleton.1 (by simp [h])
    exact absurd hx (hstatus hy)
  · have hfirst : ∀ w ∈ [y], ¬ w.Is Command.closes := by simpa using hstatus hended.1
    obtain ⟨middle, rfl, htail⟩ := split_behind hfirst hx h
    obtain ⟨rfl, -, rfl⟩ : middle = [] ∧ x = z ∧ after = [] := by
      simpa using List.singleton_eq_append_iff.1 htail
    exact ⟨y, rfl, rfl, hended⟩

end Encryption

/-! ## Publishing -/

/-- The call neither mounts nor makes a filesystem. -/
def HostCall.Spares : HostCall → Prop
  | mount _ => False
  | run c => c.makesFilesystem = false
  | _ => True

/-- A settled call spares all devices. -/
theorem HostCall.Settled.spares {c : HostCall} (h : c.Settled) : c.Spares := by
  cases c with
  | run c => exact h.elim
  | mount m => exact h.elim
  | _ => trivial

/-- A call that spares all devices uses none. -/
theorem HostExchange.not_usesDevice {x : HostExchange} (h : x.1.Spares) : ¬ x.UsesDevice := by
  obtain ⟨c, reply⟩ := x
  rintro (hmakes | ⟨m, hm⟩)
  · cases c with
    | run c => nomatch hmakes.symm.trans h
    | _ => exact hmakes
  · obtain rfl : c = .mount m := hm
    exact h

namespace Publication

section Parts

variable {Q : HostCall → Prop} {device : Path} {passphrase : String}

/-- To encrypt a device takes a probe and a format. -/
theorem only_encrypt (hprobe : Q (.run (Disk.probe device))) (hformat : Q (.run (Encryption.formatCommand device passphrase)))
    (readonly : Bool) : Only (I := host) Q (encrypt device passphrase readonly).run := by
  refine Only.except_bind (only_onHost (Only.except_bind (only_ask hprobe) fun _ => trivial)) fun found => ?_
  unfold encryptFor
  split
  · split
    · trivial
    · exact only_onHost (Encryption.only_run hformat)
  · split <;> trivial

/-- To open a mapping takes a look at its status and a command that opens it. -/
theorem only_opening {name : String} (hstatus : Q (.run (Encryption.statusCommand name)))
    (hopen : Q (.run (Encryption.openCommand device name passphrase))) :
    Only (I := host) Q (onHost (Encryption.openMapping device name passphrase) >>= fun _ =>
      (pure (Encryption.mappingPath name) : Task Path)).run := by
  exact Only.except_bind (only_onHost (Encryption.only_open hstatus hopen)) fun _ => trivial

end Parts

/-- What opens an encrypted device neither mounts it nor makes a filesystem. -/
theorem spares_openEncrypted (device : Path) (passphrase : String) (readonly : Bool) :
    Only (I := host) HostCall.Spares (openEncrypted device passphrase readonly).run := by
  cases hname : Encryption.mappingName device with
  | none =>
    rw [openEncrypted, hname]
    trivial
  | some name =>
    rw [openEncrypted_eq hname]
    exact Only.except_bind
      (only_encrypt (Q := HostCall.Spares) (Command.makesFilesystem_probe device)
        (Command.makesFilesystem_of_encryption rfl) readonly)
      fun _ => only_opening (Q := HostCall.Spares) (Command.makesFilesystem_of_encryption rfl)
        (Command.makesFilesystem_of_encryption rfl)

/-- Once an encrypted device was opened, its mapping is active. -/
theorem openEncrypted_ok {device mapping : Path} {passphrase : String} {readonly : Bool} {s : σ}
    (h : result answer (openEncrypted device passphrase readonly) s = .ok mapping) :
    ∃ y ∈ steps answer (openEncrypted device passphrase readonly) s, y.FindsActive device passphrase := by
  cases hname : Encryption.mappingName device with
  | none =>
    rw [openEncrypted, hname] at h
    cases h
  | some name =>
    rw [openEncrypted_eq hname] at h ⊢
    rcases bind_cases answer (encrypt device passphrase readonly) _ s with ⟨e, _, herror, _⟩ | ⟨_, _, hresult, hsteps⟩
    · cases herror.symm.trans h
    · rw [hsteps]
      rw [hresult] at h
      rcases bind_cases answer (onHost (Encryption.openMapping device name passphrase))
        (fun _ => (pure (Encryption.mappingPath name) : Task Path)) _ with ⟨e, _, herror, _⟩ | ⟨_, hopened, _, hsteps'⟩
      · cases herror.symm.trans h
      · rw [hsteps', steps_onHost]
        obtain ⟨y, hy, hended⟩ := Encryption.openMapping_ok answer (ok_of_onHost answer hopened)
        exact ⟨y, List.mem_append_right _ (List.mem_append_left _ hy), name, hname, hended⟩

/-- A device is encrypted before its mapping is opened. -/
theorem never_encrypts_openEncrypted (device : Path) (passphrase : String) (readonly : Bool) :
    NeverAfter answer Command.opens Command.encrypts (openEncrypted device passphrase readonly) := by
  cases hname : Encryption.mappingName device with
  | none =>
    rw [openEncrypted, hname]
    exact never_of_left trivial
  | some name =>
    rw [openEncrypted_eq hname]
    have hencrypt : Only (I := host) (HostCall.Runs fun c => c.opens = false) (encrypt device passphrase readonly).run :=
      only_encrypt (Q := HostCall.Runs fun c => c.opens = false) rfl rfl readonly
    exact never_bind (never_of_left hencrypt)
      (fun _ => never_of_right (only_opening (Q := HostCall.Runs fun c => c.encrypts = false) rfl rfl)) (Or.inl hencrypt)

/-- What mounts a device encrypts none. -/
theorem only_mountAt (source target : Path) (o : PublishOptions) (formatArguments : List String) :
    Only (I := host) (HostCall.Runs fun c => c.encrypts = false) (mountAt source target o formatArguments).run := by
  unfold mountAt
  split
  · exact only_ask trivial
  · rw [Disk.mountFormatted_eq]
    refine Only.except_bind (Disk.only_prepare (Q := HostCall.Runs _) rfl ?_) fun _ => only_ask trivial
    exact Command.encrypts_maker _ _ _

/-- Nothing is encrypted once a mapping was opened. -/
theorem never_encrypts_publish (device target : Path) (o : PublishOptions) :
    NeverAfter answer Command.opens Command.encrypts (publish device target o) := by
  unfold publish
  split
  · exact never_of_left trivial
  · rename_i formatArguments _
    have hprepare : Only (I := host) (HostCall.Runs fun c => c.opens = false) (onHost (prepareTarget target o.block)).run :=
      only_onHost ((settled_prepareTarget target o.block).mono fun _ => HostCall.Settled.runs)
    refine never_bind (never_of_left hprepare) (fun free => ?_) (Or.inl hprepare)
    split
    · have hmount := fun source => only_onHost (only_mountAt source target o formatArguments)
      refine never_bind ?_ (fun source => never_of_right (hmount source)) (Or.inr hmount)
      unfold source
      split
      · exact never_encrypts_openEncrypted answer _ _ _
      · exact never_of_left trivial
    · exact never_of_left trivial

/-- Of an encrypted device nothing is mounted, and no filesystem is made, before its mapping is active. -/
theorem active_first (device target : Path) {o : PublishOptions} {passphrase : String} (h : o.secret = some passphrase) (s : σ) :
    OnlyAfter (HostExchange.FindsActive device passphrase) HostExchange.UsesDevice
      (steps answer (publish device target o) s) := by
  have hprepare : ∀ x ∈ steps answer (onHost (prepareTarget target o.block)) s, ¬ x.UsesDevice := fun x hx =>
    HostExchange.not_usesDevice
      (of_mem_steps answer (only_onHost (settled_prepareTarget target o.block)) s x hx).spares
  have hopen : ∀ t, ∀ x ∈ steps answer (openEncrypted device passphrase o.readonly) t, ¬ x.UsesDevice := fun t x hx =>
    HostExchange.not_usesDevice (of_mem_steps answer (spares_openEncrypted device passphrase o.readonly) t x hx)
  unfold publish
  split
  · exact OnlyAfter.of_not (List.forall_mem_nil _)
  · rcases bind_cases answer (onHost (prepareTarget target o.block)) _ s with ⟨e, _, _, hsteps⟩ | ⟨free, _, _, hsteps⟩ <;>
      rw [hsteps]
    · exact OnlyAfter.of_not hprepare
    · refine OnlyAfter.append hprepare ?_
      split
      · simp only [source, h]
        rcases bind_cases answer (openEncrypted device passphrase o.readonly) _ _ with
          ⟨e, _, _, hsteps⟩ | ⟨mapping, hok, _, hsteps⟩ <;> rw [hsteps]
        · exact OnlyAfter.of_not (hopen _)
        · exact OnlyAfter.of_mem (hopen _) (openEncrypted_ok answer hok)
      · exact OnlyAfter.of_not (List.forall_mem_nil _)

/-! ## Withdrawing -/

/-- All that is done to look up what is mounted at a target and to clear it away, which succeeds. -/
def Clears (target : Path) (s : σ) (clearing : List HostExchange) : Prop :=
  let t := left answer (MountPoint.deviceAt target) s
  result answer (MountPoint.cleanUp true target) t = .ok () ∧
    clearing = steps answer (MountPoint.deviceAt target) s ++ steps answer (MountPoint.cleanUp true target) t

/-- A withdrawal runs commands only to close a mapping, and that only once the target is clear. -/
theorem steps_unpublish (target : Path) (s : σ) :
    ∃ quiet closing, steps answer (unpublish target) s = quiet ++ closing ∧
      (∀ x ∈ quiet, x.1.Runs fun _ => False) ∧
      (closing = [] ∨ Clears answer target s quiet ∧ ∃ name t, closing = steps answer (Encryption.closeMapping name) t) := by
  have hlook : ∀ x ∈ steps answer (MountPoint.deviceAt target) s, x.1.Runs fun _ => False := fun x hx =>
    (of_mem_steps answer (MountPoint.settled_deviceAt target) s x hx).runs
  have hclear : ∀ t, ∀ x ∈ steps answer (MountPoint.cleanUp true target) t, x.1.Runs fun _ => False := fun t =>
    of_mem_steps answer (MountPoint.quiet_cleanUp true target) t
  unfold unpublish
  rcases bind_cases answer (onHost (MountPoint.deviceAt target)) _ s with ⟨e, _, _, hsteps⟩ | ⟨found, _, _, hsteps⟩ <;>
    rw [hsteps, steps_onHost]
  · exact ⟨_, [], (List.append_nil _).symm, hlook, Or.inl rfl⟩
  rw [left_onHost]
  rcases bind_cases answer (onHost (MountPoint.cleanUp true target)) _ (left answer (MountPoint.deviceAt target) s) with
    ⟨e, _, _, hsteps'⟩ | ⟨_, hcleared, _, hsteps'⟩ <;> rw [hsteps', steps_onHost]
  · exact ⟨_, [], (List.append_nil _).symm, List.forall_mem_append.2 ⟨hlook, hclear _⟩, Or.inl rfl⟩
  refine ⟨_, _, (List.append_assoc _ _ _).symm, List.forall_mem_append.2 ⟨hlook, hclear _⟩, ?_⟩
  split
  · exact Or.inr ⟨⟨ok_of_onHost answer hcleared, rfl⟩, _, _, steps_onHost answer _ _⟩
  · exact Or.inl rfl

/-- A target is cleared before a mapping is closed, and the step right before that finds the mapping active. -/
theorem cleared_first {target : Path} {s : σ} {before after : List HostExchange} {x : HostExchange}
    (h : steps answer (unpublish target) s = before ++ x :: after) (hx : x.Is Command.closes) :
    ∃ clearing y, before = clearing ++ [y] ∧ Clears answer target s clearing ∧ y.Is Command.asksStatus ∧ y.EndedWith 0 := by
  obtain ⟨quiet, closing, hsteps, hquiet, hclosing⟩ := steps_unpublish answer target s
  obtain ⟨middle, rfl, htail⟩ :=
    split_behind (fun y hy => HostExchange.not_is_of_quiet (hquiet y hy)) hx (hsteps.symm.trans h)
  rcases hclosing with rfl | ⟨hclears, name, t, rfl⟩
  · exact absurd htail (by simp)
  · obtain ⟨y, rfl, _, hended⟩ := Encryption.active_before_closing answer htail hx
    exact ⟨quiet, y, rfl, hclears, (HostExchange.is_iff_of_run hended.1).2 rfl, hended.2⟩

/-- No mapping is closed if the status of one was asked for and did not say that it is active. -/
theorem never_closes_inactive {target : Path} {s : σ} {y : HostExchange} (hy : y ∈ steps answer (unpublish target) s)
    (hstatus : y.Is Command.asksStatus) (hcode : ¬ y.EndedWith 0) :
    ∀ x ∈ steps answer (unpublish target) s, ¬ x.Is Command.closes := by
  intro x hx hcloses
  obtain ⟨quiet, closing, hsteps, hquiet, hclosing⟩ := steps_unpublish answer target s
  have hbehind : ∀ {P : Command → Bool} {z : HostExchange}, z ∈ steps answer (unpublish target) s → z.Is P → z ∈ closing := by
    intro P z hz hP
    rw [hsteps] at hz
    exact (List.mem_append.1 hz).resolve_left fun hz => HostExchange.not_is_of_quiet (hquiet z hz) hP
  replace hx := hbehind hx hcloses
  replace hy := hbehind hy hstatus
  rcases hclosing with rfl | ⟨_, name, t, rfl⟩
  · nomatch hx
  obtain ⟨before, after, hsplit⟩ := List.append_of_mem hx
  obtain ⟨z, rfl, rfl, hended⟩ := Encryption.active_before_closing answer hsplit hcloses
  rw [hsplit] at hy
  obtain rfl | rfl : y = z ∨ y = x := by simpa using hy
  · exact hcode hended.2
  · exact HostExchange.not_asksStatus_of_closes hcloses hstatus

/-! ## Growing -/

/-- No filesystem is looked for while the device to grow is found. -/
theorem only_grownDevice (device : Path) :
    Only (I := host) (HostCall.Runs fun c => c.seeksFilesystem = false) (grownDevice device).run := by
  unfold grownDevice
  split
  · trivial
  · refine Only.except_bind (Encryption.only_isActive (Q := HostCall.Runs _) rfl) fun active => ?_
    split
    · exact Only.except_bind (Encryption.only_run (Q := HostCall.Runs _) rfl) fun _ => trivial
    · trivial

/-- The device to grow is the mapping, once grown, if its status says that it is active, and the device itself if not. -/
theorem grownDevice_ok {device grown : Path} {name : String} (hname : Encryption.mappingName device = some name) {s : σ}
    (h : result answer (grownDevice device) s = .ok grown) :
    (∃ y, steps answer (grownDevice device) s = [y] ∧ y.Ended (Encryption.statusCommand name) 4 ∧ grown = device) ∨
      ∃ y z, steps answer (grownDevice device) s = [y, z] ∧ y.Ended (Encryption.statusCommand name) 0 ∧
        z.Ended (Encryption.growCommand name) 0 ∧ grown = Encryption.mappingPath name := by
  unfold grownDevice at h ⊢
  rw [hname] at h ⊢
  dsimp only at h ⊢
  rcases bind_cases answer (Encryption.isActive name) _ s with ⟨e, _, herror, _⟩ | ⟨active, hactive, hresult, hsteps⟩
  · cases herror.symm.trans h
  rw [hresult] at h
  rw [hsteps]
  obtain ⟨y, hstatus, hended⟩ := Encryption.isActive_ok answer hactive
  rw [hstatus]
  cases active with
  | false => exact Or.inl ⟨y, rfl, hended, (Except.ok.inj h).symm⟩
  | true =>
    rw [if_pos rfl] at h ⊢
    rcases bind_cases answer (Encryption.growMapping name) (fun _ => (pure (Encryption.mappingPath name) : HostTask Path))
      (left answer (Encryption.isActive name) s) with ⟨e, _, herror, _⟩ | ⟨_, hgrown, hresult', hsteps'⟩
    · cases herror.symm.trans h
    rw [hresult'] at h
    rw [hsteps']
    obtain ⟨z, hgrow, hgrowth⟩ := Encryption.run_ok answer hgrown
    exact Or.inr ⟨y, z, by rw [Encryption.growMapping, hgrow]; rfl, hended, hgrowth, (Except.ok.inj h).symm⟩

/-- To grow the filesystem of a device takes a probe of the device and a command that grows it. -/
theorem steps_growDisk (device mountPath : Path) (s : σ) :
    ∀ x ∈ steps answer (Disk.grow device mountPath) s, x.SeeksOn device mountPath := by
  rw [Disk.grow_eq]
  refine of_mem_steps answer (Q := fun c => c = .run (Disk.probe device) ∨
    ∃ fsType d, Disk.grower device mountPath fsType = some d ∧ c = .run d) ?_ s
  refine Only.except_bind (Only.except_bind (only_ask (Or.inl rfl)) fun _ => trivial) fun found => ?_
  unfold Disk.growAs
  split
  · trivial
  · rename_i c hgrower
    exact Only.except_bind (only_ask (Or.inr ⟨_, c, hgrower, rfl⟩)) fun _ => trivial

/-- Growing goes on with the device that was found to be mounted. -/
theorem steps_grow {path device : Path} {count : Nat} {s : σ}
    (h : result answer (MountPoint.deviceAt path) s = .ok (some (device, count))) :
    steps answer (grow path) s = steps answer (MountPoint.deviceAt path) s ++
      steps answer (onHost (grownDevice device) >>= fun grown => onHost (Disk.grow grown path))
        (left answer (MountPoint.deviceAt path) s) := by
  unfold grow
  rcases bind_cases answer (onHost (MountPoint.deviceAt path)) _ s with ⟨e, herror, _, _⟩ | ⟨found, hfound, _, hsteps⟩
  · rw [result_onHost, h] at herror
    cases herror
  · obtain rfl : some (device, count) = found := Except.ok.inj (h.symm.trans (ok_of_onHost answer hfound))
    rw [hsteps, steps_onHost, left_onHost]

/-- Of all steps of a growth, this one comes after some that asked for the status of the mapping. The mapping is the device of this
step, and was grown before, if the status said that it is active; if it said that it is not, it is the device that is mounted. -/
structure HeedsStatus (device path : Path) (name : String) (all before : List HostExchange) (x : HostExchange) : Prop where
  asked : ∃ y ∈ before, y.1 = .run (Encryption.statusCommand name)
  heeded : ∀ y ∈ all, y.1 = .run (Encryption.statusCommand name) →
    y.EndedWith 0 ∧ (∃ z ∈ before, z.Ended (Encryption.growCommand name) 0) ∧ x.SeeksOn (Encryption.mappingPath name) path ∨
      y.EndedWith 4 ∧ x.SeeksOn device path

/-- Earlier steps of which none asks for a status make no difference. -/
theorem HeedsStatus.behind {device path : Path} {name : String} {xs all before : List HostExchange} {x : HostExchange}
    (h : HeedsStatus device path name all before x) (hxs : ∀ y ∈ xs, ¬ y.Is Command.asksStatus) :
    HeedsStatus device path name (xs ++ all) (xs ++ before) x where
  asked := by
    obtain ⟨y, hy, hrun⟩ := h.asked
    exact ⟨y, List.mem_append_right _ hy, hrun⟩
  heeded y hy hrun := by
    rcases List.mem_append.1 hy with hy | hy
    · exact absurd ((HostExchange.is_iff_of_run hrun).2 rfl) (hxs y hy)
    · rcases h.heeded y hy hrun with ⟨hcode, ⟨z, hz, hresized⟩, hseeks⟩ | hinactive
      · exact Or.inl ⟨hcode, ⟨z, List.mem_append_right _ hz, hresized⟩, hseeks⟩
      · exact Or.inr hinactive

/-- Once the device that is mounted is known, a filesystem is looked for on the device that the status of its mapping says. -/
theorem heeds_status_of_device {device path : Path} {name : String} (hname : Encryption.mappingName device = some name) {s : σ}
    {before after : List HostExchange} {x : HostExchange}
    (h : steps answer (onHost (grownDevice device) >>= fun grown => onHost (Disk.grow grown path)) s = before ++ x :: after)
    (hx : x.Is Command.seeksFilesystem) : HeedsStatus device path name (before ++ x :: after) before x := by
  have hseeks := not_is_of_mem answer (only_grownDevice device) s
  rcases bind_cases answer (onHost (grownDevice device)) (fun grown => onHost (Disk.grow grown path)) s with
    ⟨e, _, _, hsteps⟩ | ⟨grown, hgrown, _, hsteps⟩
  · -- nothing was looked for, since there was no device to look on
    rw [hsteps, steps_onHost] at h
    exact absurd hx (hseeks x (by simp [h]))
  rw [hsteps, steps_onHost, steps_onHost, left_onHost] at h
  obtain ⟨middle, rfl, htail⟩ := split_behind hseeks hx h
  have hgrow : ∀ y ∈ middle ++ x :: after, y.SeeksOn grown path := htail ▸ steps_growDisk answer grown path _
  have hgrownAt : x.SeeksOn grown path := hgrow x (by simp)
  have hasked : ∀ y ∈ steps answer (grownDevice device) s ++ middle ++ x :: after,
      y.1 = .run (Encryption.statusCommand name) → y ∈ steps answer (grownDevice device) s := by
    intro y hy hrun
    rw [List.append_assoc] at hy
    refine (List.mem_append.1 hy).resolve_right fun hy => (hgrow y hy).not_asksStatus ?_
    exact (HostExchange.is_iff_of_run hrun).2 rfl
  rcases grownDevice_ok answer hname (ok_of_onHost answer hgrown) with
    ⟨y, hone, hended, rfl⟩ | ⟨y, z, htwo, hended, hresized, rfl⟩
  · rw [hone] at hasked ⊢
    refine ⟨⟨y, by simp, hended.1⟩, fun y' hy' hrun => Or.inr ?_⟩
    obtain rfl := List.mem_singleton.1 (hasked y' hy' hrun)
    exact ⟨hended.2, hgrownAt⟩
  · rw [htwo] at hasked ⊢
    refine ⟨⟨y, by simp, hended.1⟩, fun y' hy' hrun => Or.inl ?_⟩
    obtain rfl | rfl : y' = y ∨ y' = z := by simpa using hasked y' hy' hrun
    · exact ⟨hended.2, ⟨z, by simp, hresized⟩, hgrownAt⟩
    · exact absurd (hresized.1.symm.trans hrun) (by simp [Encryption.growCommand, Encryption.statusCommand])

/-- A filesystem is looked for only after the status of the mapping, on the device that this status says. -/
theorem seeks_on_grown {path device : Path} {count : Nat} {name : String} {s : σ}
    (hfound : result answer (MountPoint.deviceAt path) s = .ok (some (device, count)))
    (hname : Encryption.mappingName device = some name) {before after : List HostExchange} {x : HostExchange}
    (h : steps answer (grow path) s = before ++ x :: after) (hx : x.Is Command.seeksFilesystem) :
    HeedsStatus device path name (steps answer (grow path) s) before x := by
  have hlook : ∀ {P : Command → Bool}, ∀ y ∈ steps answer (MountPoint.deviceAt path) s, ¬ y.Is P := fun y hy =>
    HostExchange.not_is_of_quiet (of_mem_steps answer (MountPoint.settled_deviceAt path) s y hy).runs
  rw [steps_grow answer hfound] at h ⊢
  obtain ⟨middle, rfl, htail⟩ := split_behind hlook hx h
  rw [htail]
  exact (heeds_status_of_device answer hname htail hx).behind hlook

/-! ## In order, on every run -/

/-- The steps of publishing come in order. -/
structure PublishInOrder (device target : Path) (o : PublishOptions) : Prop where
  encrypts_first : NeverAfter answer Command.opens Command.encrypts (publish device target o)
  opens_first : ∀ passphrase, o.secret = some passphrase → ∀ s,
    OnlyAfter (HostExchange.FindsActive device passphrase) HostExchange.UsesDevice (steps answer (publish device target o) s)
  stops : StopsAtFailure answer (publish device target o)

/-- The steps of withdrawing come in order. -/
structure UnpublishInOrder (target : Path) : Prop where
  clears_first : ∀ s before x after, steps answer (unpublish target) s = before ++ x :: after → x.Is Command.closes →
    ∃ clearing y, before = clearing ++ [y] ∧ Clears answer target s clearing ∧ y.Is Command.asksStatus ∧ y.EndedWith 0
  closes_active : ∀ s, (∃ y ∈ steps answer (unpublish target) s, y.Is Command.asksStatus ∧ ¬ y.EndedWith 0) →
    ∀ x ∈ steps answer (unpublish target) s, ¬ x.Is Command.closes
  stops : StopsAtFailure answer (unpublish target)

/-- The steps of growing come in order: of a device with a mapping of a name, what the status of the mapping says is heeded. -/
structure GrowInOrder (path : Path) : Prop where
  heeds_status : ∀ s device count name, result answer (MountPoint.deviceAt path) s = .ok (some (device, count)) →
    Encryption.mappingName device = some name → ∀ before x after, steps answer (grow path) s = before ++ x :: after →
    x.Is Command.seeksFilesystem → HeedsStatus device path name (steps answer (grow path) s) before x
  stops : StopsAtFailure answer (grow path)

/-- Whatever answers, publishing, withdrawing and growing go in order, and stop with an error at the first step that fails. -/
theorem in_order : (∀ device target o, PublishInOrder answer device target o) ∧ (∀ target, UnpublishInOrder answer target) ∧
    ∀ path, GrowInOrder answer path where
  left device target o :=
    { encrypts_first := never_encrypts_publish answer device target o
      opens_first := fun _ hsecret s => active_first answer device target hsecret s
      stops := stops_publish device target o }
  right :=
    ⟨fun target =>
      { clears_first := fun _ _ _ _ => cleared_first answer
        closes_active := fun _ ⟨_, hy, hstatus, hcode⟩ => never_closes_inactive answer hy hstatus hcode
        stops := stops_unpublish target },
    fun path =>
      { heeds_status := fun _ _ _ _ hfound hname _ _ _ => seeks_on_grown answer hfound hname
        stops := stops_grow path }⟩

end Publication

end VolumeDriver
