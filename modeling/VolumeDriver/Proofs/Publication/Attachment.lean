import VolumeDriver.Proofs.Publication.Ordering
import VolumeDriver.Proofs.Publication.Target

/-!
# What is mounted, and what is done before

Publishing prepares the target, which changes files alone (`files_of_settled`), makes the device ready, which takes commands and
nothing else (`ranSince_of_commands`), and ends with one mount (`perform_attach`). What is mounted is the device or, if it is to be
encrypted, its mapping (`mountedDevice`).
-/

namespace VolumeDriver

open Program HostTask

/-! ## What a task may do to a host in memory -/

namespace MemoryHost

variable {τ α ε : Type} (tools : Toolbox τ)

/-- Since then commands of this kind were run, and nothing else was done. -/
def RanSince (Q : Command → Prop) (s u : MemoryHost τ) : Prop :=
  ∃ ran : List (Command × CommandOutput), (∀ x ∈ ran, Q x.1) ∧
    u = { s with tools := u.tools, log := s.log ++ ran.map fun x => .ran x.1 x.2 }

theorem RanSince.refl {Q : Command → Prop} (s : MemoryHost τ) : RanSince Q s s := ⟨[], by simp, by simp⟩

/-- A task that only runs commands of a kind runs nothing else. -/
theorem ranSince_of_commands {Q : Command → Prop} {t : ExceptT ε (Program host) α}
    (ht : Only (I := host) (fun c => ∃ d, c = .run d ∧ Q d) t.run) (s : MemoryHost τ) : RanSince Q s (s.perform tools t).2 := by
  refine run_preserves (P := RanSince Q s) ?_ ht (.refl s)
  rintro _ u ⟨d, rfl, hd⟩ ⟨ran, hran, hu⟩
  refine ⟨ran ++ [(d, (tools.run d u.tools).1)], ?_, ?_⟩
  · simpa [or_imp, forall_and] using ⟨fun c o => hran (c, o), hd⟩
  · rw [hu]
    simp [answer, MemoryHost.run]

/-- A task that runs no command and neither mounts nor unmounts changes files alone. -/
theorem files_of_settled {t : ExceptT ε (Program host) α} (ht : Only (I := host) HostCall.Settled t.run) (s : MemoryHost τ) :
    (s.perform tools t).2 = { s with files := (s.perform tools t).2.files } := by
  refine run_preserves (P := fun u : MemoryHost τ => u = { s with files := u.files }) ?_ ht rfl
  intro c u hc hu
  cases c with
  | file c =>
    rw [hu]
    rfl
  | run c => exact hc.elim
  | mount m => exact hc.elim
  | unmount p patience => exact hc.elim
  | entries => exact hu
  | looksUnmounted p => exact hu

/-- A device at which nothing is mounted is listed as it is. -/
theorem listedDevice_of_unlisted {s : MemoryHost τ} {source : Path} (h : ∀ e ∈ s.entries, e.path.same source = false)
    (options : List String) : s.listedDevice source options = source := by
  have hnone : s.entries.find? (fun e => e.path.same source) = none := List.find?_eq_none.2 (by simpa using h)
  unfold listedDevice
  split
  · rw [hnone]
    rfl
  · rfl

end MemoryHost

namespace Publication

variable {device target : Path} {o : PublishOptions} {arguments : List String}

/-- What is mounted: the mapping of a device that is to be encrypted, and else the device itself. -/
def mountedDevice (device : Path) (o : PublishOptions) : Path :=
  match o.secret, Encryption.mappingName device with
  | some _, some name => Encryption.mappingPath name
  | _, _ => device

/-- A device with a passphrase and a name is mounted by its mapping. -/
theorem mountedDevice_of_name {passphrase name : String} (hsecret : o.secret = some passphrase)
    (hname : Encryption.mappingName device = some name) : mountedDevice device o = Encryption.mappingPath name := by
  rw [mountedDevice, hsecret, hname]

/-- The mount that attaching a device ends with. -/
def mountRequest (source target : Path) (o : PublishOptions) : MountRequest :=
  if o.block then ⟨some source, target, "", o.mountOptions, []⟩
  else ⟨some source, target, Disk.chosen o.fsType, o.mountOptions ++ ["defaults"], []⟩

/-- Encrypts a device and opens its mapping, if it is to be encrypted. -/
def unlock (device : Path) (o : PublishOptions) : Task Unit :=
  match o.secret with
  | none => pure ()
  | some passphrase =>
    match Encryption.mappingName device with
    | none => throw (.notADevice device)
    | some name => encrypt device passphrase o.readonly >>= fun _ => onHost (Encryption.openMapping device name passphrase)

/-- A device with a passphrase and a name is encrypted, and then its mapping is opened. -/
theorem unlock_of_name {passphrase name : String} (hsecret : o.secret = some passphrase)
    (hname : Encryption.mappingName device = some name) : unlock device o =
      encrypt device passphrase o.readonly >>= fun _ => onHost (Encryption.openMapping device name passphrase) := by
  rw [unlock, hsecret, hname]

/-- Makes sure that what is mounted as a filesystem carries one. -/
def furnish (source : Path) (o : PublishOptions) (arguments : List String) : HostTask Unit :=
  if o.block then pure () else Disk.prepare source (Disk.chosen o.fsType) o.mountOptions arguments

/-- All that is done before a device is mounted. -/
def makeReady (device : Path) (o : PublishOptions) (arguments : List String) : Task Unit :=
  unlock device o >>= fun _ => onHost (furnish (mountedDevice device o) o arguments)

/-- Two tasks of a host in a row are two parts of a publication. -/
theorem onHost_bind {α β : Type} (t : HostTask α) (f : α → HostTask β) :
    onHost (t >>= f) = onHost t >>= fun a => onHost (f a) := by
  show (t.run.bind (ExceptT.bindCont f)).bind _ = (t.run.bind _).bind _
  rw [Program.bind_bind, Program.bind_bind]
  refine congrArg t.run.bind (funext fun r => ?_)
  cases r <;> rfl

/-- To mount at a target is to furnish the source and then to mount it. -/
theorem mountAt_eq (source : Path) :
    mountAt source target o arguments = furnish source o arguments >>= fun _ => askHost (.mount (mountRequest source target o)) := by
  unfold mountAt furnish mountRequest
  cases o.block with
  | true => rfl
  | false => exact Disk.mountFormatted_eq ..

/-- The device that is mounted does not depend on how it was made ready. -/
theorem source_eq : source device o = unlock device o >>= fun _ => pure (mountedDevice device o) := by
  have : LawfulMonad (Program host) := Program.lawful
  unfold source unlock mountedDevice
  cases o.secret with
  | none => rfl
  | some passphrase =>
    dsimp only
    cases hname : Encryption.mappingName device with
    | none =>
      rw [openEncrypted, hname]
      rfl
    | some name => rw [openEncrypted_eq hname, bind_assoc]

/-- To attach a device is to make it ready and then to mount it. -/
theorem attach_eq : attach device target o arguments =
    makeReady device o arguments >>= fun _ => onHost (askHost (.mount (mountRequest (mountedDevice device o) target o))) := by
  have : LawfulMonad (Program host) := Program.lawful
  unfold attach makeReady
  rw [source_eq, bind_assoc, bind_assoc]
  refine congrArg (unlock device o >>= ·) (funext fun _ => ?_)
  rw [pure_bind, mountAt_eq, onHost_bind]

/-- The commands by which a device is made ready. -/
theorem only_makeReady {Q : HostCall → Prop}
    (hunlock : ∀ passphrase name, o.secret = some passphrase → Encryption.mappingName device = some name →
      Q (.run (Disk.probe device)) ∧ Q (.run (Encryption.formatCommand device passphrase)) ∧
        Q (.run (Encryption.statusCommand name)) ∧ Q (.run (Encryption.openCommand device name passphrase)))
    (hprobe : Q (.run (Disk.probe (mountedDevice device o))))
    (hmaker : Q (.run (Disk.maker (mountedDevice device o) (Disk.chosen o.fsType) arguments))) :
    Only (I := host) Q (makeReady device o arguments).run := by
  refine Only.except_bind ?_ fun _ => only_onHost ?_
  · unfold unlock
    cases hsecret : o.secret with
    | none => trivial
    | some passphrase =>
      cases hname : Encryption.mappingName device with
      | none => trivial
      | some name =>
        obtain ⟨hfirst, hformat, hstatus, hopen⟩ := hunlock passphrase name hsecret hname
        exact Only.except_bind (only_encrypt hfirst hformat o.readonly) fun _ =>
          only_onHost (Encryption.only_open hstatus hopen)
  · unfold furnish
    split
    · trivial
    · exact Disk.only_prepare hprobe hmaker

/-- The calls of a publish. -/
theorem only_publish {Q : HostCall → Prop} (hsettled : ∀ c, c.Settled → Q c)
    (hunlock : ∀ passphrase name, o.secret = some passphrase → Encryption.mappingName device = some name →
      Q (.run (Encryption.formatCommand device passphrase)) ∧ Q (.run (Encryption.statusCommand name)) ∧
        Q (.run (Encryption.openCommand device name passphrase)))
    (hprobe : ∀ source, Q (.run (Disk.probe source)))
    (hmaker : ∀ source fsType arguments, Q (.run (Disk.maker source fsType arguments))) (hmount : ∀ m, Q (.mount m)) :
    Only (I := host) Q (publish device target o).run := by
  cases harguments : o.formatArguments with
  | error e =>
    rw [publish, harguments]
    trivial
  | ok arguments =>
    rw [publish_eq harguments]
    refine Only.except_bind (only_onHost ((settled_prepareTarget target o.block).mono hsettled)) fun free => ?_
    split
    · rw [attach_eq]
      refine Only.except_bind (only_makeReady ?_ (hprobe _) (hmaker _ _ _)) fun _ => only_onHost (only_ask (hmount _))
      exact fun passphrase name hsecret hname => ⟨hprobe _, hunlock passphrase name hsecret hname⟩
    · trivial

/-! ## On a host in memory -/

variable {τ : Type} (tools : Toolbox τ) {passphrase name : String}

/-- To look whether a target is free changes nothing. -/
theorem perform_isFree (target : Path) (s : MemoryHost τ) :
    s.perform tools (MountPoint.isFree target) =
      ((MountPoint.lookup s.files target).map fun resolved => !s.entries.any (·.matchesPath resolved), s) := by
  have hscene := s.outcome_scene tools (MountPoint.isFree target)
  rw [MountPoint.outcome_isFree] at hscene
  have hkept := MemoryHost.files_of_settled tools (MountPoint.settled_isFree target) s
  have hfiles : (s.perform tools (MountPoint.isFree target)).2.files = s.files := (congrArg (fun x => x.2.files) hscene).symm
  rw [hfiles] at hkept
  exact Prod.ext (congrArg Prod.fst hscene).symm hkept

/-- A target that could be looked at is left as it is, whether it is free or not. -/
theorem prepareTarget_of_looked {free block : Bool} {s : MemoryHost τ}
    (h : (s.perform tools (MountPoint.isFree target)).1 = .ok free) : s.perform tools (prepareTarget target block) = (.ok free, s) := by
  rw [prepareTarget, MemoryHost.perform_bind, MemoryHost.perform_attempt, h, perform_isFree]
  rfl

/-- A target that is found taken is one at which something is mounted. -/
theorem taken_of_prepareTarget {block : Bool} {s : MemoryHost τ} (h : (s.perform tools (prepareTarget target block)).1 = .ok false) :
    (s.perform tools (MountPoint.isFree target)).1 = .ok false := by
  rw [prepareTarget, MemoryHost.perform_bind, MemoryHost.perform_attempt] at h
  rcases hfree : s.perform tools (MountPoint.isFree target) with ⟨e | free, u⟩
  · rw [hfree] at h
    dsimp only at h
    split at h
    · rw [MemoryHost.perform_bind] at h
      rcases hmade : u.perform tools (makeTarget target block) with ⟨_ | _, v⟩ <;> rw [hmade] at h <;> cases h
    · cases h
  · rw [hfree] at h
    exact h

/-- To publish is to prepare the target, and to attach the device if the target is free. -/
theorem perform_publish (h : o.formatArguments = .ok arguments) (s : MemoryHost τ) :
    s.perform tools (publish device target o) =
      match s.perform tools (prepareTarget target o.block) with
      | (.ok true, u) => u.perform tools (attach device target o arguments)
      | (.ok false, u) => (.ok (), u)
      | (.error e, u) => (.error (.mount e), u) := by
  rw [publish_eq h, MemoryHost.perform_bind, MemoryHost.perform_onHost]
  rcases s.perform tools (prepareTarget target o.block) with ⟨_ | _ | _, u⟩ <;> rfl

/-- Preparing the target fails, or finds something mounted there, or comes before the device is attached. -/
theorem publish_cases (device target : Path) (h : o.formatArguments = .ok arguments) (s : MemoryHost τ) :
    ∃ files, (∃ e, (s.perform tools (prepareTarget target o.block)).1 = .error e ∧
        s.perform tools (publish device target o) = (.error (.mount e), { s with files := files })) ∨
      (s.perform tools (prepareTarget target o.block)).1 = .ok false ∧
        s.perform tools (publish device target o) = (.ok (), { s with files := files }) ∨
      (s.perform tools (prepareTarget target o.block)).1 = .ok true ∧
        s.perform tools (publish device target o) =
          MemoryHost.perform tools (attach device target o arguments) { s with files := files } := by
  have hkept := MemoryHost.files_of_settled tools (settled_prepareTarget target o.block) s
  have hpublish : s.perform tools (publish device target o) = _ := perform_publish tools h s
  rcases hprepare : s.perform tools (prepareTarget target o.block) with ⟨r, u⟩
  rw [hprepare] at hkept hpublish
  replace hkept : u = { s with files := u.files } := hkept
  refine ⟨u.files, ?_⟩
  rw [← hkept, hpublish]
  rcases r with e | _ | _
  · exact Or.inl ⟨e, rfl, rfl⟩
  · exact Or.inr (Or.inl ⟨rfl, rfl⟩)
  · exact Or.inr (Or.inr ⟨rfl, rfl⟩)

/-- A device without a file name has no mapping, and nothing is tried. -/
theorem makeReady_of_nameless (hsecret : o.secret = some passphrase) (hname : Encryption.mappingName device = none)
    (s : MemoryHost τ) : s.perform tools (makeReady device o arguments) = (.error (.notADevice device), s) := by
  rw [makeReady, unlock, hsecret, hname]
  rfl

/-- A device with a passphrase that is ready has a mapping. -/
theorem named_of_makeReady (hsecret : o.secret.isSome) {s u : MemoryHost τ}
    (hready : s.perform tools (makeReady device o arguments) = (.ok (), u)) : ∃ name, Encryption.mappingName device = some name := by
  obtain ⟨passphrase, hpassphrase⟩ := Option.isSome_iff_exists.1 hsecret
  cases hname : Encryption.mappingName device with
  | none =>
    rw [makeReady_of_nameless tools hpassphrase hname] at hready
    cases hready
  | some name => exact ⟨name, rfl⟩

/-- To make a device ready takes commands and nothing else. -/
theorem ranSince_makeReady (device : Path) (o : PublishOptions) (arguments : List String) (s : MemoryHost τ) :
    MemoryHost.RanSince (fun _ => True) s (s.perform tools (makeReady device o arguments)).2 :=
  MemoryHost.ranSince_of_commands tools
    (only_makeReady (fun _ _ _ _ => ⟨⟨_, rfl, trivial⟩, ⟨_, rfl, trivial⟩, ⟨_, rfl, trivial⟩, ⟨_, rfl, trivial⟩⟩) ⟨_, rfl, trivial⟩
      ⟨_, rfl, trivial⟩) s

/-- A mount adds one entry to the table. -/
theorem mount_mountRequest (source target : Path) (o : PublishOptions) (s : MemoryHost τ) :
    ∃ fsType options, (s.mount (mountRequest source target o)).2 =
      { s with
        entries := s.entries ++
          [{ device := s.listedDevice source options, path := s.resolve target, fsType := fsType, options := options }]
        log := s.log ++ [.mounted (s.listedDevice source options) (s.resolve target) fsType] } := by
  unfold mountRequest
  split
  · exact ⟨"", o.mountOptions, by simp [MemoryHost.mount]⟩
  · exact ⟨Disk.chosen o.fsType, o.mountOptions ++ ["defaults"], by simp [MemoryHost.mount]⟩

/-- Once a device is ready it is mounted, which cannot fail. -/
theorem perform_attach (s : MemoryHost τ) :
    s.perform tools (attach device target o arguments) =
      match s.perform tools (makeReady device o arguments) with
      | (.ok _, u) => (.ok (), (u.mount (mountRequest (mountedDevice device o) target o)).2)
      | (.error e, u) => (.error e, u) := by
  rw [attach_eq, MemoryHost.perform_bind]
  rcases s.perform tools (makeReady device o arguments) with ⟨e | _, u⟩
  · rfl
  · dsimp only
    rw [MemoryHost.perform_onHost, MemoryHost.perform_ask, MemoryHost.answer, mountRequest]
    cases o.block <;> rfl

/-- The mapping of what is mounted is that of the device. -/
theorem mappingName_mountedDevice (device : Path) (o : PublishOptions) :
    Encryption.mappingName (mountedDevice device o) = Encryption.mappingName device := by
  unfold mountedDevice
  split
  · rename_i hname
    rw [hname, Encryption.mappingName_mappingPath hname]
  · rfl

/-- A device that was attached is listed for the target, after all others. If it is encrypted, it has a mapping. -/
theorem attach_ok {s u : MemoryHost τ} (h : s.perform tools (attach device target o arguments) = (.ok (), u)) :
    (o.secret.isSome → ∃ name, Encryption.mappingName device = some name) ∧
      ∃ fsType options after log, u = { s with
        tools := after
        entries := s.entries ++
          [{ device := s.listedDevice (mountedDevice device o) options, path := s.resolve target, fsType := fsType, options := options }]
        log := log } := by
  rw [perform_attach] at h
  obtain ⟨ran, _, hran⟩ := ranSince_makeReady tools device o arguments s
  rcases hready : s.perform tools (makeReady device o arguments) with ⟨e | _, v⟩
  · rw [hready] at h
    cases h
  rw [hready] at h hran
  refine ⟨fun hsecret => named_of_makeReady tools hsecret hready, ?_⟩
  obtain ⟨fsType, options, hmount⟩ := mount_mountRequest (mountedDevice device o) target o v
  replace hran : v = _ := hran
  replace h : (v.mount (mountRequest (mountedDevice device o) target o)).2 = u := congrArg Prod.snd h
  rw [← h, hmount, hran]
  exact ⟨fsType, options, _, _, rfl⟩

end Publication

end VolumeDriver
