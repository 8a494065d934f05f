import VolumeDriver.Proofs.Encryption
import VolumeDriver.Proofs.Host.Attempts
import VolumeDriver.Proofs.Tool.Devices

/-!
# Attaching a device resumes

A device is attached in steps: it is encrypted, its mapping is opened, a filesystem is made and mounted. Each step but the mount
looks whether it was done before it does anything, so it resumes after it was cut short (`Disk.resumes_prepare`,
`Encryption.resumes_openMapping`, `resumes_encrypt`). The steps resume in a row (`resumes_attach`) as none undoes an earlier one: a
mapping that is opened and a filesystem that is made within it leave the device itself encrypted, since a device outside the
directory of mappings is never what lies within a mapping.
-/

namespace VolumeDriver

open Program HostTask

namespace Disk

/-- What is done about what a device holds before it is mounted. -/
def prepareFor (source : Path) (fsType : String) (options formatOptions : List String) : DiskFormat → HostTask Unit
  | .blank =>
    if readOnlyOption ∈ options then throw (.blankReadOnly source) else makeFilesystem source fsType formatOptions
  | .partitioned => throw (.partitioned source)
  | .filesystem name => if name ≠ fsType then throw (.otherFilesystem source name fsType) else pure ()

/-- Makes sure that a device carries a filesystem. -/
def prepare (source : Path) (fsType : String) (options formatOptions : List String) : HostTask Unit :=
  format source >>= prepareFor source fsType options formatOptions

/-- The filesystem asked for. -/
def chosen (fsType : String) : String := if fsType.isEmpty then defaultFilesystem else fsType

/-- Some filesystem is always asked for. -/
theorem chosen_ne (fsType : String) : chosen fsType ≠ "" := by
  unfold chosen
  split
  · decide
  · rename_i hfilled
    rintro rfl
    exact hfilled rfl

/-- The filesystem asked for is a word if its name is. -/
theorem unbroken_chosen {fsType : String} (h : Text.Unbroken fsType.toList) :
    Text.Unbroken (chosen fsType).toList := by
  unfold chosen
  split
  · decide
  · exact h

/-- To mount a device as a filesystem is to make sure of that filesystem, and then to mount. -/
theorem mountFormatted_eq (source target : Path) (fsType : String) (options formatOptions : List String) :
    mountFormatted source target fsType options formatOptions =
      prepare source (chosen fsType) options formatOptions >>= fun _ =>
        askHost (.mount ⟨some source, target, chosen fsType, options ++ ["defaults"], []⟩) := by
  have : LawfulMonad (Program host) := Program.lawful
  unfold mountFormatted prepare chosen
  dsimp only
  generalize (if fsType.isEmpty = true then defaultFilesystem else fsType) = chosen
  rw [bind_assoc]
  refine congrArg (format source >>= ·) (funext fun found => ?_)
  cases found with
  | blank =>
    dsimp only [prepareFor]
    split <;> rfl
  | partitioned => rfl
  | filesystem name =>
    dsimp only [prepareFor]
    split <;> rfl

/-- To make a filesystem is one command, which has to succeed. -/
theorem makeFilesystem_eq (device : Path) (fsType : String) (options : List String) :
    makeFilesystem device fsType options = command (maker device fsType options) fun o =>
      if o.isSuccess then .ok () else .error (.formatFailed (maker device fsType options) o) := by
  refine congrArg (askHost (.run (maker device fsType options)) >>= ·) (funext fun o => ?_)
  dsimp only
  split <;> rfl

end Disk

namespace Encryption

def readStatus (name : String) (o : CommandOutput) : Except MountError Bool :=
  if o.code = some 0 then .ok true
  else if o.code = some inactive then .ok false
  else .error (.commandFailed (statusCommand name).render o)

/-- A look at the status of a mapping is one command, and its code is read. -/
theorem isActive_eq (name : String) : isActive name = command (statusCommand name) (readStatus name) := by
  refine congrArg (askHost (.run (statusCommand name)) >>= ·) (funext fun o => ?_)
  unfold readStatus
  split
  · rfl
  · split <;> rfl

/-- To run a command is to run it and to see that it succeeds. -/
theorem run_eq (c : Command) :
    run c = command c fun o => if o.isSuccess then .ok () else .error (.commandFailed c.render o) := by
  refine congrArg (askHost (.run c) >>= ·) (funext fun o => ?_)
  unfold CommandOutput.check
  dsimp only
  split <;> rfl

/-- A mapping is opened unless it is active. -/
theorem openMapping_eq (device : Path) (name passphrase : String) :
    openMapping device name passphrase =
      isActive name >>= fun active => if active then pure () else run (openCommand device name passphrase) := rfl

end Encryption

/-! ## Making sure of a filesystem -/

namespace Disk

variable {source target : Path} {fsType : String} {options formatOptions : List String}

/-- A look for the format of a device finds what the device holds, and changes nothing. -/
theorem outcome_format (device : Path) (s : Scene Devices) :
    s.outcome Devices.toolbox (format device) = (formatOf device (s.tools.contents (s.tools.locate device)).report, s) := rfl

/-- A look for the format of a device does nothing. -/
theorem looks_format (device : Path) (s : Scene Devices) :
    s.Looks Devices.toolbox Devices.meaningful (format device) := by
  refine Scene.Looks.command (c := probe device) (fun o hcode => ?_) rfl
  have hzero : o.code ≠ some 0 := hcode 0 (by simp)
  have hnothing : o.code ≠ some nothingFound := hcode nothingFound (by simp)
  exact ⟨_, by rw [formatOf, if_neg hzero, if_neg hnothing]⟩

/-- A filesystem is made or not begun. -/
theorem atomic_makeFilesystem (device : Path) (fsType : String) (options : List String) (s : Scene Devices) :
    s.Atomic Devices.toolbox Devices.meaningful (makeFilesystem device fsType options) := by
  rw [makeFilesystem_eq]
  refine Scene.Atomic.command (a := ()) (fun o hcode => ?_) ?_
  · have hfailed : ¬ o.isSuccess = true := by simpa [CommandOutput.isSuccess] using hcode
    exact ⟨_, if_neg hfailed⟩
  · show (if (Devices.act (maker device fsType options) s.tools).1.isSuccess then _ else _) = _
    rw [Devices.act_maker]
    rfl

/-- A filesystem that was made is what the device holds. -/
theorem outcome_makeFilesystem (device : Path) (fsType : String) (options : List String) (s : Scene Devices) :
    s.outcome Devices.toolbox (makeFilesystem device fsType options) =
      (.ok (), s.withTools (s.tools.write (s.tools.locate device) (.filesystem fsType))) := by
  rw [makeFilesystem_eq, Scene.outcome_command]
  show ((if (Devices.act (maker device fsType options) s.tools).1.isSuccess then _ else _),
    s.withTools (Devices.act (maker device fsType options) s.tools).2) = _
  rw [Devices.act_maker]
  rfl

/-- What looks at a device, does nothing if it shows a type, and does nothing else that would not make it show that type. -/
theorem settles_of_look {ε : Type} {g : MountError → ε} {look : ExceptT ε (Program host) DiskFormat}
    {act : DiskFormat → ExceptT ε (Program host) Unit} {device : Path} {type : String}
    (hlook : ∀ s : Scene Devices, s.outcome Devices.toolbox look =
      ((formatOf device (s.tools.contents (s.tools.locate device)).report).mapError g, s))
    (hsettled : act (.filesystem type) = pure ())
    (hdone : ∀ (s : Scene Devices) v found, s.outcome Devices.toolbox (act found) = (.ok (), v) →
      found = .filesystem type ∧ v = s ∨ v.tools.Shows device type) :
    Scene.Settles Devices.toolbox (look >>= act) fun d => d.Shows device type where
  settled s h := by
    rw [Scene.outcome_bind, hlook, h]
    dsimp only [mapError_ok]
    rw [hsettled]
    rfl
  done_of_ok s v h := by
    rw [Scene.outcome_bind, hlook] at h
    rcases hfound : formatOf device (s.tools.contents (s.tools.locate device)).report with e | found
    · rw [hfound] at h
      nomatch h
    · rw [hfound] at h
      rcases hdone s v found h with ⟨rfl, rfl⟩ | hshows
      · exact hfound
      · exact hshows

/-- A device that carries the filesystem asked for is left alone, and one that is left so was made so. -/
theorem settles_prepare (hne : fsType ≠ "") (hunbroken : Text.Unbroken fsType.toList) :
    Scene.Settles Devices.toolbox (prepare source fsType options formatOptions) fun d => d.Shows source fsType := by
  refine settles_of_look (g := id) (fun s => ?_) (by simp [prepareFor]) fun s v found h => ?_
  · rw [outcome_format]
    cases formatOf source (s.tools.contents (s.tools.locate source)).report <;> rfl
  · cases found with
    | blank =>
      dsimp only [prepareFor] at h
      split at h
      · nomatch h
      · rw [outcome_makeFilesystem] at h
        cases h
        exact Or.inr (s.tools.shows_write source hne hunbroken)
    | partitioned => nomatch h
    | filesystem name =>
      dsimp only [prepareFor] at h
      split at h
      · nomatch h
      · rename_i hname
        cases h
        exact Or.inl ⟨congrArg _ (Decidable.not_not.1 hname), rfl⟩

/-- Attempts to make sure of a filesystem make no difference to one that is not cut short: a filesystem that was made is found. -/
theorem resumes_prepare (hne : fsType ≠ "") (hunbroken : Text.Unbroken fsType.toList) (s : Scene Devices) :
    s.Resumes Devices.toolbox Devices.meaningful (prepare source fsType options formatOptions) := by
  refine Scene.Resumes.guarded (looks_format source s) (fun found _ => ?_) (settles_prepare hne hunbroken)
  cases found with
  | blank =>
    dsimp only [prepareFor]
    split
    · exact Scene.Atomic.throw _
    · exact atomic_makeFilesystem source fsType formatOptions s
  | partitioned => exact Scene.Atomic.throw _
  | filesystem name =>
    dsimp only [prepareFor]
    split
    · exact Scene.Atomic.throw _
    · exact Scene.Atomic.pure ()

/-- It probes the device, and may make the filesystem on it. -/
theorem only_prepare {Q : HostCall → Prop} (hprobe : Q (.run (probe source)))
    (hmaker : Q (.run (maker source fsType formatOptions))) :
    Only (I := host) Q (prepare source fsType options formatOptions).run := by
  refine Only.except_bind (Only.except_bind (only_ask hprobe) fun _ => trivial) fun found => ?_
  cases found with
  | blank =>
    dsimp only [prepareFor]
    split
    · trivial
    · rw [makeFilesystem_eq]
      exact Only.except_bind (only_ask hmaker) fun _ => trivial
  | partitioned => trivial
  | filesystem name =>
    dsimp only [prepareFor]
    split <;> trivial

end Disk

/-! ## Making sure of a mapping -/

namespace Encryption

/-- A command that succeeds on these devices is done or not begun. -/
theorem atomic_run {c : Command} {s : Scene Devices} (hmeaningful : Devices.meaningful c = [0])
    (hok : (Devices.act c s.tools).1.isSuccess = true) : s.Atomic Devices.toolbox Devices.meaningful (run c) := by
  rw [run_eq]
  refine Scene.Atomic.command (a := ()) (fun o hcode => ?_) (if_pos hok)
  rw [hmeaningful] at hcode
  have hfailed : ¬ o.isSuccess = true := by simpa [CommandOutput.isSuccess] using hcode
  exact ⟨_, if_neg hfailed⟩

/-- A command that succeeds on these devices leaves what it does to them. -/
theorem outcome_run {c : Command} {s : Scene Devices} (hok : (Devices.act c s.tools).1.isSuccess = true) :
    s.outcome Devices.toolbox (run c) = (.ok (), s.withTools (Devices.act c s.tools).2) := by
  rw [run_eq, Scene.outcome_command]
  exact congrArg (·, _) (if_pos hok)

variable {device : Path} {name passphrase : String}

/-- A look at the status of a mapping does nothing. -/
theorem looks_isActive (name : String) (s : Scene Devices) :
    s.Looks Devices.toolbox Devices.meaningful (isActive name) := by
  rw [isActive_eq]
  refine Scene.Looks.command (fun o hcode => ?_) rfl
  have hactive : o.code ≠ some 0 := hcode 0 (by simp)
  have hinactive : o.code ≠ some inactive := hcode inactive (by simp)
  exact ⟨_, by rw [readStatus, if_neg hactive, if_neg hinactive]⟩

/-- A look at the status of a mapping finds whether it is active. -/
theorem outcome_isActive (name : String) (s : Scene Devices) :
    s.outcome Devices.toolbox (isActive name) = (.ok (s.tools.active name).isSome, s) := by
  rw [isActive_eq, Scene.outcome_command]
  show (readStatus name (Devices.act (statusCommand name) s.tools).1, s.withTools (Devices.act (statusCommand name) s.tools).2) = _
  rw [Devices.act_status]
  cases (s.tools.active name).isSome <;> rfl

/-- A mapping that is active is left alone, and one that is left so was opened. -/
theorem settles_openMapping :
    Scene.Settles Devices.toolbox (openMapping device name passphrase) fun d => (d.active name).isSome = true where
  settled s h := by
    rw [openMapping_eq, Scene.outcome_bind, outcome_isActive, h]
    rfl
  done_of_ok s v h := by
    rw [openMapping_eq, Scene.outcome_bind, outcome_isActive] at h
    cases hactive : (s.tools.active name).isSome with
    | true =>
      rw [hactive] at h
      cases h
      exact hactive
    | false =>
      have hopened := outcome_run (c := openCommand device name passphrase) (s := s) rfl
      rw [hactive] at h
      dsimp only at h
      rw [if_neg Bool.false_ne_true, hopened, Devices.act_open] at h
      cases h
      exact congrArg Option.isSome (s.tools.active_setMapping name _)

/-- Attempts to open a mapping make no difference: one that was opened is active. -/
theorem resumes_openMapping (s : Scene Devices) :
    s.Resumes Devices.toolbox Devices.meaningful (openMapping device name passphrase) := by
  refine Scene.Resumes.guarded (t := isActive name) (looks_isActive name s) (fun active _ => ?_)
    settles_openMapping
  cases active with
  | true => exact Scene.Atomic.pure ()
  | false => exact atomic_run rfl rfl

end Encryption

namespace Publication

variable {device : Path} {passphrase : String} {readonly : Bool}

/-- What is done about what a device holds before it is opened. -/
def encryptFor (device : Path) (passphrase : String) (readonly : Bool) (found : DiskFormat) : Task Unit :=
  match found.name? with
  | none => if readonly then throw (.blankReadOnly device) else onHost (Encryption.format device passphrase)
  | some format => if format ≠ Encryption.formatName then throw (.notEncrypted device format) else pure ()

/-- Makes sure that a device is encrypted. -/
def encrypt (device : Path) (passphrase : String) (readonly : Bool) : Task Unit :=
  onHost (Disk.format device) >>= encryptFor device passphrase readonly

/-- To open an encrypted device is to make sure that it is encrypted, and then to open its mapping. -/
theorem openEncrypted_eq {name : String} (hname : Encryption.mappingName device = some name) :
    openEncrypted device passphrase readonly =
      encrypt device passphrase readonly >>= fun _ =>
        onHost (Encryption.openMapping device name passphrase) >>= fun _ => pure (Encryption.mappingPath name) := by
  have : LawfulMonad (Program host) := Program.lawful
  unfold openEncrypted encrypt
  rw [hname, bind_assoc]
  refine congrArg (onHost (Disk.format device) >>= ·) (funext fun found => ?_)
  unfold encryptFor
  cases found.name? with
  | none =>
    dsimp only
    split <;> rfl
  | some format =>
    dsimp only
    split <;> rfl

/-- A device that is encrypted is left alone, and one that is left so was encrypted. -/
theorem settles_encrypt : Scene.Settles Devices.toolbox (encrypt device passphrase readonly) fun d =>
    d.Shows device Encryption.formatName := by
  refine Disk.settles_of_look (g := .mount) (fun s => ?_) (by simp [encryptFor, DiskFormat.name?]) fun s v found h => ?_
  · rw [Scene.outcome_onHost, Disk.outcome_format]
  · cases found with
    | blank =>
      dsimp only [encryptFor, DiskFormat.name?] at h
      split at h
      · nomatch h
      · have hencrypted := Encryption.outcome_run (c := Encryption.formatCommand device passphrase) (s := s) rfl
        rw [Scene.outcome_onHost, Encryption.format, hencrypted, Devices.act_format] at h
        cases h
        exact Or.inr (s.tools.shows_encrypted device)
    | partitioned => nomatch h
    | filesystem found =>
      dsimp only [encryptFor, DiskFormat.name?] at h
      split at h
      · nomatch h
      · rename_i hname
        cases h
        exact Or.inl ⟨congrArg _ (Decidable.not_not.1 hname), rfl⟩

/-- Attempts to encrypt a device make no difference: one that was encrypted is found to be. -/
theorem resumes_encrypt (s : Scene Devices) :
    s.Resumes Devices.toolbox Devices.meaningful (encrypt device passphrase readonly) := by
  refine Scene.Resumes.guarded (Disk.looks_format device s).onHost (fun found _ => ?_) settles_encrypt
  unfold encryptFor
  split
  · split
    · exact Scene.Atomic.throw _
    · exact (Encryption.atomic_run rfl rfl).onHost
  · split
    · exact Scene.Atomic.throw _
    · exact Scene.Atomic.pure ()

/-! ## Mounting -/

section Mounting

variable {source target : Path} {o : PublishOptions} {arguments : List String} {s v : Scene Devices}

/-- A mount cannot fail. -/
theorem attempt_mount {τ : Type} {tools : Toolbox τ} {meaningful : Command → List Int} {s v : Scene τ} {fsType : String}
    {options : List String} {r : Except MountError Unit}
    (h : s.Attempt tools meaningful (askHost (.mount ⟨some source, target, fsType, options, []⟩)) r v) :
    r = .ok () ∧ v = { s with entries := s.entries ++
      [{ device := s.host.listedDevice source options, path := s.host.resolve target, fsType := fsType
         options := options ++ [] }] } := by
  cases h.of_quiet quiet_ask
  exact ⟨rfl, rfl⟩

/-- Attempts to mount make no difference: a mount is no command that is cut short. -/
theorem resumes_mount (source target : Path) (fsType : String) (options : List String) (s : Scene Devices) :
    s.Resumes Devices.toolbox Devices.meaningful (askHost (.mount ⟨some source, target, fsType, options, []⟩)) :=
  .of_quiet quiet_ask fun e v h => by cases h

/-- Attempts to mount at a target make no difference to one that is not cut short. -/
theorem resumes_mountAt (hunbroken : Text.Unbroken o.fsType.toList) (s : Scene Devices) :
    s.Resumes Devices.toolbox Devices.meaningful (mountAt source target o arguments) := by
  unfold mountAt
  split
  · exact resumes_mount source target _ _ s
  · rw [Disk.mountFormatted_eq]
    refine Scene.Resumes.bind (Disk.resumes_prepare (Disk.chosen_ne _) (Disk.unbroken_chosen hunbroken) s)
      (Disk.settles_prepare (Disk.chosen_ne _) (Disk.unbroken_chosen hunbroken))
      (fun u _ => resumes_mount source target _ _ u) fun u e v _ h => ?_
    nomatch (attempt_mount h).1

/-- To mount a device may write a filesystem on it, and changes no device but so. -/
theorem keeps_mountAt {P : Devices → Prop}
    (hwrite : ∀ d type, P d → P (d.write (d.locate source) (.filesystem type))) {r : Except PublishError Unit}
    (h : s.Attempt Devices.toolbox Devices.meaningful (onHost (mountAt source target o arguments)) r v) (hs : P s.tools) :
    P v.tools := by
  refine h.keeps (only_onHost ?_) hs
  unfold mountAt
  split
  · exact only_ask trivial
  · rw [Disk.mountFormatted_eq]
    refine Only.except_bind (Disk.only_prepare (fun d hd => hd) fun d hd => ?_) fun _ => only_ask trivial
    show P (Devices.act _ d).2
    rw [Devices.act_maker]
    exact hwrite d _ hd

end Mounting

/-! ## Opening and mounting -/

section Attaching

variable {target : Path} {o : PublishOptions} {arguments : List String} {name : String} {s v : Scene Devices}

/-- Makes a device available at a target that is free. -/
def attach (device target : Path) (o : PublishOptions) (arguments : List String) : Task Unit := do
  let source ← source device o
  onHost (mountAt source target o arguments)

/-- To attach a device with a passphrase is to encrypt it, to open its mapping, and to mount that. -/
theorem attach_of_secret (hsecret : o.secret = some passphrase) (hname : Encryption.mappingName device = some name) :
    attach device target o arguments =
      encrypt device passphrase o.readonly >>= fun _ => onHost (Encryption.openMapping device name passphrase) >>= fun _ =>
        onHost (mountAt (Encryption.mappingPath name) target o arguments) := by
  have : LawfulMonad (Program host) := Program.lawful
  simp only [attach, source, hsecret, openEncrypted_eq hname, bind_assoc, pure_bind]

/-- To open a mapping leaves the device encrypted. -/
theorem keeps_openMapping (hdevice : device.mapping = none) {r : Except PublishError Unit}
    (h : s.Attempt Devices.toolbox Devices.meaningful (onHost (Encryption.openMapping device name passphrase)) r v)
    (hs : s.tools.Shows device Encryption.formatName) : v.tools.Shows device Encryption.formatName := by
  refine h.keeps (P := fun d => d.Shows device Encryption.formatName) (only_onHost ?_) hs
  refine Only.except_bind (Encryption.only_isActive (Q := HostCall.Runs _) fun d hd => hd) fun active => ?_
  split
  · trivial
  · exact Encryption.only_run (Q := HostCall.Runs _) fun d hd => Devices.shows_setMapping hdevice hd name _

/-- To mount a mapping leaves the mapping active and the device encrypted. -/
theorem keeps_mountAt_mapping (hdevice : device.mapping = none) (hname : Encryption.mappingName device = some name)
    {r : Except PublishError Unit}
    (h : s.Attempt Devices.toolbox Devices.meaningful (onHost (mountAt (Encryption.mappingPath name) target o arguments)) r v)
    (hs : s.tools.Shows device Encryption.formatName ∧ (s.tools.active name).isSome = true) :
    v.tools.Shows device Encryption.formatName ∧ (v.tools.active name).isSome = true := by
  refine keeps_mountAt (P := fun d => d.Shows device Encryption.formatName ∧ (d.active name).isSome = true) ?_ h hs
  rintro d type ⟨hshows, hactive⟩
  obtain ⟨outer, hlocate⟩ := Devices.locate_of_active (Devices.mapping_mappingPath hname) hactive
  rw [hlocate]
  exact ⟨Devices.shows_write_inside hdevice hshows outer _, hactive⟩

/-- Attempts to attach a device make no difference to one that is not cut short. -/
theorem resumes_attach (hdevice : device.mapping = none) (hunbroken : Text.Unbroken o.fsType.toList)
    (s : Scene Devices) : s.Resumes Devices.toolbox Devices.meaningful (attach device target o arguments) := by
  cases hsecret : o.secret with
  | none =>
    have hattach : attach device target o arguments = onHost (mountAt device target o arguments) := by
      simp only [attach, source, hsecret]
      rfl
    rw [hattach]
    exact (resumes_mountAt hunbroken s).onHost
  | some passphrase =>
    cases hname : Encryption.mappingName device with
    | none =>
      have hattach : attach device target o arguments = throw (.notADevice device) := by
        simp only [attach, source, hsecret, openEncrypted, hname]
        rfl
      rw [hattach]
      exact .of_quiet (quiet_throw _) fun e v h => by cases h; rfl
    | some name =>
      rw [attach_of_secret hsecret hname]
      have hopen : ∀ u : Scene Devices, u.Resumes Devices.toolbox Devices.meaningful
          (onHost (Encryption.openMapping device name passphrase) >>= fun _ =>
            onHost (mountAt (Encryption.mappingPath name) target o arguments)) := fun u =>
        .bind (Encryption.resumes_openMapping u).onHost Encryption.settles_openMapping.onHost
          (fun u _ => (resumes_mountAt hunbroken u).onHost) fun u e v hu h =>
            keeps_mountAt (P := fun d => (d.active name).isSome = true) (fun _ _ hd => hd) h hu
      refine .bind (resumes_encrypt s) settles_encrypt (fun u _ => hopen u) fun u e v hu h => ?_
      rcases h.of_bind with ⟨e, _, hopening⟩ | ⟨x, w, hopened, hmounting⟩
      · exact keeps_openMapping hdevice hopening hu
      · have hdone := Encryption.settles_openMapping.onHost.done_of_ok u w
          ((Encryption.resumes_openMapping u).onHost.completes x w hopened)
        exact (keeps_mountAt_mapping hdevice hname hmounting ⟨keeps_openMapping hdevice hopened hu, hdone⟩).1

end Attaching

end Publication

end VolumeDriver
