import VolumeDriver.Proofs.Publication.Attachment
import VolumeDriver.Proofs.Publication.Withdrawal

/-!
# Whose mapping is mounted

A mapping bears the file name of the path of its device, and a mapping that is active is taken for that of the device at hand. So
along a run every active mapping was opened on a device with that file name (`KeepsOrigins`), and a device is sure to be mounted
through a mapping of its own exactly if no other device shares its file name (`mountsOwn_iff`).
-/

namespace VolumeDriver

open Program HostTask

variable {τ δ : Type}

/-- The commands that open a mapping, by program and first argument. -/
theorem Command.opens_iff {c : Command} : c.opens = true ↔ c.program = "cryptsetup" ∧ c.args.head? = some "luksOpen" := by
  simp [opens]

/-- A command of another program neither opens nor closes a mapping. -/
theorem Command.handles_none {c : Command} (h : c.program ≠ Encryption.program) : c.opens = false ∧ c.closes = false := by
  have hname : c.program ≠ "cryptsetup" := h
  simp [opens, closes, hname]

/-- What every command of a task keeps, its run keeps. -/
theorem MemoryHost.tools_preserved {α ε : Type} {tools : Toolbox τ} {P : τ → Prop} {t : ExceptT ε (Program host) α}
    (ht : Only (HostCall.Runs fun c => ∀ u, P u → P (tools.run c u).2) t.run) {s : MemoryHost τ} (hs : P s.tools) :
    P (s.perform tools t).2.tools := by
  refine run_preserves (P := fun u : MemoryHost τ => P u.tools) (fun c u hc hu => ?_) ht hs
  by_cases hquiet : c.Runs fun _ => False
  · have hkept : (u.answer tools c).2.tools = u.tools := tools_of_quiet tools (quiet_ask hquiet) u
    rwa [hkept]
  · cases c with
    | run c => exact hc u.tools hu
    | _ => exact absurd trivial hquiet

namespace Publication

/-! ## Tools that remember -/

/-- The tools keep mappings as the encryption program does, and remember on which device each was opened. No command fails but one
that is to open a mapping that is active. -/
structure RemembersOrigins (tools : Toolbox τ) (which : Path → δ) (origin : τ → String → Option δ) : Prop where
  status : ∀ t name, (tools.run (Encryption.statusCommand name) t).1.code = some (if (origin t name).isSome then 0 else 4)
  opened : ∀ t device name passphrase, origin t name = none →
    (tools.run (Encryption.openCommand device name passphrase) t).1.code = some 0 ∧
      origin (tools.run (Encryption.openCommand device name passphrase) t).2 =
        Function.update (origin t) name (some (which device))
  reopened : ∀ t device name passphrase, origin t name ≠ none →
    origin (tools.run (Encryption.openCommand device name passphrase) t).2 = origin t
  closed : ∀ t name, origin t name ≠ none → (tools.run (Encryption.closeCommand name) t).1.code = some 0
  forgotten : ∀ t name, origin (tools.run (Encryption.closeCommand name) t).2 = Function.update (origin t) name none
  kept : ∀ t c, c.opens = false → c.closes = false → origin (tools.run c t).2 = origin t
  succeeds : ∀ t c, c.opens = false → c.closes = false → ∃ n ∈ c.allowedCodes, (tools.run c t).1.code = some n

/-- A call of the publishing service. -/
inductive Call where
  | publish (device target : Path) (o : PublishOptions)
  | unpublish (target : Path)

def Call.task : Call → Task Unit
  | publish device target o => Publication.publish device target o
  | unpublish target => Publication.unpublish target

/-- The host after calls, one after the other. -/
def after (tools : Toolbox τ) (calls : List Call) (s : MemoryHost τ) : MemoryHost τ :=
  calls.foldl (fun s c => (s.perform tools c.task).2) s

/-- If the call publishes an encrypted device, it is one of these. -/
def Call.Within (D : Path → Prop) : Call → Prop
  | publish device _ o => o.secret.isSome → D device
  | unpublish _ => True

/-- The call of an encrypted publish mounted nothing, or the device's mapping, which was opened on that very device. -/
def MountsOwn (which : Path → δ) (origin : τ → String → Option δ) (device : Path) (u v : MemoryHost τ) : Prop :=
  v.entries = u.entries ∨ ∃ name entry, Encryption.mappingName device = some name ∧ v.entries = u.entries ++ [entry] ∧
    entry.device = u.listedDevice (Encryption.mappingPath name) entry.options ∧ origin v.tools name = some (which device)

/-- Whatever such tools do, and whatever was published and withdrawn before, an encrypted publish of any of these devices mounts
no mapping but its own. -/
def AlwaysMountsOwn (which : Path → δ) (D : Path → Prop) : Prop :=
  ∀ (τ : Type) (tools : Toolbox τ) (origin : τ → String → Option δ), RemembersOrigins tools which origin →
    ∀ s : MemoryHost τ, (∀ name, origin s.tools name = none) → ∀ calls : List Call, (∀ c ∈ calls, c.Within D) →
      ∀ device target o, D device → o.secret.isSome →
        MountsOwn which origin device (after tools calls s)
          ((after tools calls s).perform tools (publish device target o)).2

/-! ## What a run keeps -/

section Keeping

variable {tools : Toolbox τ} {which : Path → δ} {origin : τ → String → Option δ} {D : Path → Prop} {device target : Path}
  {o : PublishOptions} {arguments : List String} {name passphrase : String}

/-- All commands of a publish but one neither open nor close a mapping. -/
theorem opens_publish {Q : Command → Prop} (hother : ∀ c, c.opens = false → c.closes = false → Q c)
    (hopen : ∀ passphrase name, o.secret = some passphrase → Encryption.mappingName device = some name →
      Q (Encryption.openCommand device name passphrase)) : Only (HostCall.Runs Q) (publish device target o).run := by
  refine only_publish (Q := HostCall.Runs Q) (fun _ => HostCall.Settled.runs) ?_ (fun source => hother _ rfl rfl) ?_
    fun _ => trivial
  · intro passphrase name hsecret hname
    exact ⟨hother _ rfl rfl, hother _ rfl rfl, hopen passphrase name hsecret hname⟩
  · intro source fsType arguments
    obtain ⟨_, _, hprogram⟩ := Devices.maker_program source fsType arguments
    exact hother _ (Command.handles_none hprogram).1 (Command.handles_none hprogram).2

/-- To withdraw runs commands that ask for the status of a mapping or close one, and no others. -/
theorem only_unpublish {Q : Command → Prop} (hstatus : ∀ name, Q (Encryption.statusCommand name))
    (hclose : ∀ name, Q (Encryption.closeCommand name)) : Only (HostCall.Runs Q) (unpublish target).run := by
  have hquiet : ∀ {c : HostCall}, c.Runs (fun _ => False) → c.Runs Q := by
    intro c hc
    cases c with
    | run c => exact hc.elim
    | _ => trivial
  refine Only.except_bind (only_onHost ((MountPoint.settled_deviceAt target).mono fun _ => HostCall.Settled.runs)) fun found => ?_
  refine Only.except_bind (only_onHost ((MountPoint.quiet_cleanUp true target).mono fun _ => hquiet)) fun _ => ?_
  split
  · exact only_onHost (Encryption.only_close (Q := HostCall.Runs Q) (hstatus _) (hclose _))
  · trivial

/-- Every active mapping was opened on one of these devices, by a path with the name of the mapping. -/
def KeepsOrigins (which : Path → δ) (origin : τ → String → Option δ) (D : Path → Prop) (t : τ) : Prop :=
  ∀ name d, origin t name = some d → ∃ p, D p ∧ Encryption.mappingName p = some name ∧ which p = d

/-- To publish a device keeps the origins of all mappings, if the device may be encrypted. -/
theorem KeepsOrigins.publish (h : RemembersOrigins tools which origin) (target : Path) (hdevice : o.secret.isSome → D device) {s : MemoryHost τ}
    (hs : KeepsOrigins which origin D s.tools) :
    KeepsOrigins which origin D (s.perform tools (publish device target o)).2.tools := by
  refine MemoryHost.tools_preserved (opens_publish ?_ ?_) hs
  · intro c hopens hcloses u hu
    rwa [KeepsOrigins, h.kept u c hopens hcloses]
  · intro passphrase name hsecret hname u hu
    by_cases hactive : origin u name = none
    · intro name' d hd
      rw [(h.opened u device name passphrase hactive).2, Function.update_apply] at hd
      split at hd
      · rename_i heq
        cases hd
        exact ⟨device, hdevice (by rw [hsecret]; rfl), heq ▸ hname, rfl⟩
      · exact hu name' d hd
    · rwa [KeepsOrigins, h.reopened u device name passphrase hactive]

/-- To withdraw a target keeps the origins of all mappings. -/
theorem KeepsOrigins.unpublish (h : RemembersOrigins tools which origin) {s : MemoryHost τ}
    (hs : KeepsOrigins which origin D s.tools) :
    KeepsOrigins which origin D (s.perform tools (unpublish target)).2.tools := by
  refine MemoryHost.tools_preserved (only_unpublish ?_ ?_) hs
  · intro name u hu
    rwa [KeepsOrigins, h.kept u _ rfl rfl]
  · intro name u hu name' d hd
    rw [h.forgotten, Function.update_apply] at hd
    split at hd
    · nomatch hd
    · exact hu name' d hd

/-- What calls keep of the mappings, all calls of a run keep. -/
theorem keepsOrigins_after (h : RemembersOrigins tools which origin) {calls : List Call} (hcalls : ∀ c ∈ calls, c.Within D)
    {s : MemoryHost τ} (hs : KeepsOrigins which origin D s.tools) : KeepsOrigins which origin D (after tools calls s).tools := by
  induction calls generalizing s with
  | nil => exact hs
  | cons c calls ih =>
    rw [List.forall_mem_cons] at hcalls
    refine ih hcalls.2 ?_
    cases c with
    | publish device target o => exact hs.publish h target hcalls.1
    | unpublish target => exact hs.unpublish h

/-- An active mapping stays what it is as a device is published. -/
theorem origin_of_publish (h : RemembersOrigins tools which origin) (device target : Path) (o : PublishOptions) {s : MemoryHost τ} {d : δ}
    (hs : origin s.tools name = some d) : origin (s.perform tools (publish device target o)).2.tools name = some d := by
  refine MemoryHost.tools_preserved (P := fun t => origin t name = some d) (opens_publish ?_ ?_) hs
  · intro c hopens hcloses u hu
    rwa [h.kept u c hopens hcloses]
  · intro passphrase name' hsecret hname u hu
    by_cases hactive : origin u name' = none
    · have hne : name ≠ name' := by
        rintro rfl
        cases hu.symm.trans hactive
      rwa [(h.opened u device name' passphrase hactive).2, Function.update_of_ne hne]
    · rwa [h.reopened u device name' passphrase hactive]

/-! ## What is mounted -/

/-- Once a mapping was opened it is active. -/
theorem active_of_openMapping (h : RemembersOrigins tools which origin) (device : Path) (name passphrase : String)
    (s : MemoryHost τ) : (origin (s.perform tools (Encryption.openMapping device name passphrase)).2.tools name).isSome := by
  have hkept : origin (s.run tools (Encryption.statusCommand name)).2.tools = origin s.tools := h.kept s.tools _ rfl rfl
  rw [Encryption.openMapping_eq, MemoryHost.perform_bind, Encryption.perform_isActive, h.status]
  cases hactive : origin s.tools name with
  | some d =>
    show (origin (s.run tools (Encryption.statusCommand name)).2.tools name).isSome = true
    rw [hkept, hactive]
    rfl
  | none =>
    have hnone : origin (s.run tools (Encryption.statusCommand name)).2.tools name = none := by rw [hkept, hactive]
    show (origin (MemoryHost.perform tools (Encryption.run (Encryption.openCommand device name passphrase))
      (s.run tools (Encryption.statusCommand name)).2).2.tools name).isSome = true
    rw [Encryption.perform_run]
    show (origin (tools.run (Encryption.openCommand device name passphrase)
      (s.run tools (Encryption.statusCommand name)).2.tools).2 name).isSome = true
    rw [(h.opened _ device name passphrase hnone).2, Function.update_self]
    rfl

/-- To open a mapping succeeds: one that is active is taken as it is. -/
theorem openMapping_ok (h : RemembersOrigins tools which origin) (device : Path) (name passphrase : String) (s : MemoryHost τ) :
    (s.perform tools (Encryption.openMapping device name passphrase)).1 = .ok () := by
  rw [Encryption.openMapping_eq, MemoryHost.perform_bind, Encryption.perform_isActive, h.status]
  cases hactive : origin s.tools name with
  | some d => rfl
  | none =>
    have hnone : origin (s.run tools (Encryption.statusCommand name)).2.tools name = none := by
      rw [← hactive]
      exact congrFun (h.kept s.tools _ rfl rfl) name
    show (MemoryHost.perform tools (Encryption.run (Encryption.openCommand device name passphrase))
      (s.run tools (Encryption.statusCommand name)).2).1 = .ok ()
    rw [Encryption.perform_run, if_pos (h.opened _ device name passphrase hnone).1]

/-- A blank device with a name can be unlocked, whatever mappings are active. -/
theorem unlock_ok (h : RemembersOrigins tools which origin) (hsecret : o.secret = some passphrase) (hwritable : o.readonly = false)
    (hname : Encryption.mappingName device = some name) {s : MemoryHost τ}
    (hblank : (tools.run (Disk.probe device) s.tools).1.code = some Disk.nothingFound) :
    (s.perform tools (unlock device o)).1 = .ok () := by
  have hprobe : s.perform tools (Disk.format device) = (.ok .blank, (s.run tools (Disk.probe device)).2) := by
    have hformat : Disk.formatOf device (tools.run (Disk.probe device) s.tools).1 = .ok .blank := by
      rw [Disk.formatOf, hblank]
      rfl
    rw [← hformat, MemoryHost.perform, Disk.run_format]
    rfl
  obtain ⟨n, hn, hcode⟩ := h.succeeds (s.run tools (Disk.probe device)).2.tools (Encryption.formatCommand device passphrase) rfl rfl
  obtain rfl : n = 0 := List.mem_singleton.1 hn
  have hencrypt : (s.perform tools (encrypt device passphrase o.readonly)).1 = .ok () := by
    rw [encrypt, MemoryHost.perform_bind, MemoryHost.perform_onHost, hprobe, hwritable]
    show (MemoryHost.perform tools (onHost (Encryption.format device passphrase)) (s.run tools (Disk.probe device)).2).1 = .ok ()
    rw [MemoryHost.perform_onHost, Encryption.format, Encryption.perform_run, if_pos hcode]
    rfl
  rw [unlock_of_name hsecret hname, MemoryHost.perform_bind]
  rcases hrun : s.perform tools (encrypt device passphrase o.readonly) with ⟨r, u⟩
  rw [hrun] at hencrypt
  obtain rfl : r = .ok () := hencrypt
  dsimp only
  rw [MemoryHost.perform_onHost, openMapping_ok h]
  rfl

/-- To make sure of a filesystem opens and closes no mapping. -/
theorem origin_of_furnish (h : RemembersOrigins tools which origin) (source : Path) (o : PublishOptions)
    (arguments : List String) (s : MemoryHost τ) :
    origin (s.perform tools (furnish source o arguments)).2.tools = origin s.tools := by
  have hkept : ∀ {c : Command}, c.opens = false → c.closes = false →
      ∀ u, origin u = origin s.tools → origin (tools.run c u).2 = origin s.tools :=
    fun hopens hcloses u hu => (h.kept u _ hopens hcloses).trans hu
  refine MemoryHost.tools_preserved (P := fun t => origin t = origin s.tools) ?_ rfl
  unfold furnish
  split
  · trivial
  · obtain ⟨_, _, hprogram⟩ := Devices.maker_program source (Disk.chosen o.fsType) arguments
    have hmaker := Command.handles_none hprogram
    exact Disk.only_prepare (Q := HostCall.Runs _) (hkept rfl rfl) (hkept hmaker.1 hmaker.2)

/-- A device with a passphrase that is ready has an active mapping of its name. -/
theorem active_of_makeReady (h : RemembersOrigins tools which origin) (hsecret : o.secret.isSome) {s u : MemoryHost τ}
    (hready : s.perform tools (makeReady device o arguments) = (.ok (), u)) :
    ∃ name, Encryption.mappingName device = some name ∧ (origin u.tools name).isSome := by
  obtain ⟨passphrase, hpassphrase⟩ := Option.isSome_iff_exists.1 hsecret
  obtain ⟨name, hname⟩ := named_of_makeReady tools hsecret hready
  refine ⟨name, hname, ?_⟩
  rw [makeReady, unlock_of_name hpassphrase hname] at hready
  obtain ⟨_, v, hopened, hfurnished⟩ := MemoryHost.of_perform_bind tools hready
  obtain ⟨_, w, _, hopened⟩ := MemoryHost.of_perform_bind tools hopened
  have hactive := active_of_openMapping h device name passphrase w
  rw [MemoryHost.of_perform_onHost tools hopened] at hactive
  have hkept := origin_of_furnish h (mountedDevice device o) o arguments v
  rw [MemoryHost.of_perform_onHost tools hfurnished] at hkept
  rwa [hkept]

/-- An encrypted publish mounts nothing or the mapping of the device's name, which was opened on one of the devices with that name. -/
theorem mounts_of_publish (h : RemembersOrigins tools which origin) (target : Path) (hdevice : D device) (hsecret : o.secret.isSome)
    {s : MemoryHost τ} (hs : KeepsOrigins which origin D s.tools) :
    (s.perform tools (publish device target o)).2.entries = s.entries ∨
      ∃ name entry p, Encryption.mappingName device = some name ∧
        (s.perform tools (publish device target o)).2.entries = s.entries ++ [entry] ∧
        entry.device = s.listedDevice (Encryption.mappingPath name) entry.options ∧
        D p ∧ Encryption.mappingName p = some name ∧
        origin (s.perform tools (publish device target o)).2.tools name = some (which p) := by
  have hkeeps : KeepsOrigins which origin D (s.perform tools (Publication.publish device target o)).2.tools :=
    hs.publish h target fun _ => hdevice
  cases harguments : o.formatArguments with
  | error e =>
    rw [publish, harguments]
    exact Or.inl rfl
  | ok arguments =>
    obtain ⟨files, ⟨e, _, hpublish⟩ | ⟨_, hpublish⟩ | ⟨_, hpublish⟩⟩ :=
      publish_cases tools device target harguments s
    · rw [hpublish]
      exact Or.inl rfl
    · rw [hpublish]
      exact Or.inl rfl
    · rw [perform_attach] at hpublish
      obtain ⟨ran, _, hran⟩ := ranSince_makeReady tools device o arguments { s with files := files }
      rcases hready : MemoryHost.perform tools (makeReady device o arguments) { s with files := files } with ⟨e | _, u⟩
      · rw [hready] at hpublish hran
        rw [hpublish, hran]
        exact Or.inl rfl
      · rw [hready] at hpublish hran
        replace hran : u = _ := hran
        obtain ⟨passphrase, hpassphrase⟩ := Option.isSome_iff_exists.1 hsecret
        obtain ⟨name, hname, hactive⟩ := active_of_makeReady h hsecret hready
        obtain ⟨d, hd⟩ := Option.isSome_iff_exists.1 hactive
        obtain ⟨fsType, options, hmount⟩ := mount_mountRequest (mountedDevice device o) target o u
        rw [hpublish] at hkeeps ⊢
        dsimp only at hkeeps ⊢
        rw [hmount] at hkeeps ⊢
        obtain ⟨p, hp, hpname, rfl⟩ := hkeeps name d hd
        rw [mountedDevice_of_name hpassphrase hname]
        have hentries : u.entries = s.entries := by rw [hran]
        exact Or.inr ⟨name, _, p, hname, by rw [hentries], by unfold MemoryHost.listedDevice; rw [hentries], hp, hpname, hd⟩

end Keeping

/-! ## Two devices with one file name -/

/-- The mappings that are active, each with the device that it was opened on. -/
abbrev Origins (δ : Type) : Type := String → Option δ

namespace Origins

variable (which : Path → δ)

/-- What the encryption program does. -/
def encryption (t : Origins δ) : List String → CommandOutput × Origins δ
  | ["status", name] => (⟨some (if (t name).isSome then 0 else Encryption.inactive), ""⟩, t)
  | ["luksOpen", _, device, name] =>
    if (t name).isSome then (⟨some MappingTools.busy, ""⟩, t) else (.success "", Function.update t name (some (which ⟨device⟩)))
  | ["luksClose", name] => (⟨some (if (t name).isSome then 0 else Encryption.inactive), ""⟩, Function.update t name none)
  | _ => (.success "", t)

/-- Tools that remember origins and do nothing else. To a probe every device is blank. -/
def toolbox : Toolbox (Origins δ) where
  run c t :=
    if c.program = Encryption.program then encryption which t c.args
    else (if c.program = "blkid" then ⟨some Disk.nothingFound, ""⟩ else .success "", t)

/-- A command that neither opens nor closes a mapping succeeds and changes none. -/
theorem run_cases {c : Command} (hopens : c.opens = false) (hcloses : c.closes = false) (t : Origins δ) :
    ∃ o, (∃ n ∈ c.allowedCodes, o.code = some n) ∧ (toolbox which).run c t = (o, t) := by
  have hzero : (0 : Int) ∈ c.allowedCodes := by
    unfold Command.allowedCodes
    split
    · exact List.mem_cons_self
    · split <;> exact List.mem_cons_self
  by_cases hprogram : c.program = Encryption.program
  · have hopen : c.args.head? ≠ some "luksOpen" := fun h => nomatch (Command.opens_iff.2 ⟨hprogram, h⟩).symm.trans hopens
    have hclose : c.args.head? ≠ some "luksClose" := fun h => nomatch (Command.closes_iff.2 ⟨hprogram, h⟩).symm.trans hcloses
    have hrun : (toolbox which).run c t = encryption which t c.args := if_pos hprogram
    rw [hrun]
    unfold encryption
    split
    · rename_i name hargs
      refine ⟨_, ⟨_, ?_, rfl⟩, rfl⟩
      have hallowed : c.allowedCodes = [0, 4] := by
        rw [Command.allowedCodes, if_neg (by rw [hprogram]; decide), if_pos ⟨hprogram, by rw [hargs]; rfl⟩]
      rw [hallowed]
      split <;> decide
    · rename_i hargs
      exact absurd (by rw [hargs]; rfl) hopen
    · rename_i hargs
      exact absurd (by rw [hargs]; rfl) hclose
    · exact ⟨_, ⟨0, hzero, rfl⟩, rfl⟩
  · have hrun : (toolbox which).run c t = (if c.program = "blkid" then ⟨some Disk.nothingFound, ""⟩ else .success "", t) :=
      if_neg hprogram
    rw [hrun]
    split
    · rename_i hprobe
      refine ⟨_, ⟨2, ?_, rfl⟩, rfl⟩
      rw [Command.allowedCodes, if_pos hprobe]
      decide
    · exact ⟨_, ⟨0, hzero, rfl⟩, rfl⟩

/-- The tools that only remember origins remember them. -/
theorem remembersOrigins : RemembersOrigins (toolbox which) which fun t => t where
  status t name := rfl
  opened t device name passphrase hnone := by
    have hrun : (toolbox which).run (Encryption.openCommand device name passphrase) t =
        if (t name).isSome then (⟨some MappingTools.busy, ""⟩, t)
        else (.success "", Function.update t name (some (which device))) := rfl
    rw [hrun, hnone]
    exact ⟨rfl, rfl⟩
  reopened t device name passphrase hactive := by
    have hrun : (toolbox which).run (Encryption.openCommand device name passphrase) t =
        if (t name).isSome then (⟨some MappingTools.busy, ""⟩, t)
        else (.success "", Function.update t name (some (which device))) := rfl
    rw [hrun, if_pos (Option.isSome_iff_ne_none.2 hactive)]
  closed t name hactive := by
    have hrun : ((toolbox which).run (Encryption.closeCommand name) t).1.code =
        some (if (t name).isSome then 0 else Encryption.inactive) := rfl
    rw [hrun, if_pos (Option.isSome_iff_ne_none.2 hactive)]
  forgotten t name := rfl
  kept t c hopens hcloses := by
    rcases run_cases which hopens hcloses t with ⟨o, _, hrun⟩
    rw [hrun]
  succeeds t c hopens hcloses := by
    obtain ⟨o, hcode, hrun⟩ := run_cases which hopens hcloses t
    rw [hrun]
    exact hcode

end Origins

/-- A device that can be unlocked is bound to a free target. -/
theorem publish_of_free {tools : Toolbox τ} (device : Path) {target : Path} {o : PublishOptions} {arguments : List String} {s : MemoryHost τ}
    (harguments : o.formatArguments = .ok arguments) (hblock : o.block = true)
    (hfree : (s.perform tools (MountPoint.isFree target)).1 = .ok true) (hunlock : (s.perform tools (unlock device o)).1 = .ok ()) :
    ∃ entry, entry.path = s.resolve target ∧ (s.perform tools (publish device target o)).2.files = s.files ∧
      (s.perform tools (publish device target o)).2.entries = s.entries ++ [entry] := by
  have hready : (s.perform tools (makeReady device o arguments)).1 = .ok () := by
    rw [makeReady, furnish, if_pos hblock, MemoryHost.perform_bind]
    rcases hrun : s.perform tools (unlock device o) with ⟨r, u⟩
    rw [hrun] at hunlock
    obtain rfl : r = .ok () := hunlock
    rfl
  obtain ⟨ran, _, hran⟩ := ranSince_makeReady tools device o arguments s
  rw [perform_publish tools harguments, prepareTarget_of_looked tools hfree]
  dsimp only
  rw [perform_attach]
  rcases hrun : s.perform tools (makeReady device o arguments) with ⟨r, u⟩
  rw [hrun] at hready hran
  obtain rfl : r = .ok () := hready
  replace hran : u = _ := hran
  obtain ⟨fsType, options, hmount⟩ := mount_mountRequest (mountedDevice device o) target o u
  dsimp only
  rw [hmount, hran]
  exact ⟨_, rfl, rfl, rfl⟩

/-- Binds an encrypted device. -/
def boundOptions : PublishOptions := { block := true, passphrase := some "secret" }

/-- No mapping is active, and there are directories `/a` and `/b`. -/
def freshHost (δ : Type) : MemoryHost (Origins δ) where
  tools := fun _ => none
  files := sharedHost.files

/-- The directories of the shared host are looked up as they are named. -/
theorem lookup_sharedHost : MountPoint.lookup sharedHost.files ⟨"/a"⟩ = .ok ⟨"/a"⟩ ∧
    MountPoint.lookup sharedHost.files ⟨"/b"⟩ = .ok ⟨"/b"⟩ := ⟨by rfl, by rfl⟩

/-- Of two devices with the same file name the second is mounted through the mapping of the first. -/
theorem which_eq_of_alwaysMountsOwn {which : Path → δ} {D : Path → Prop} (h : AlwaysMountsOwn which D) {p q : Path} {name : String}
    (hp : D p) (hq : D q) (hpname : Encryption.mappingName p = some name) (hqname : Encryption.mappingName q = some name) :
    which p = which q := by
  have hremembers := Origins.remembersOrigins which
  have harguments : boundOptions.formatArguments = .ok [] := rfl
  have hsecret : boundOptions.secret = some "secret" := rfl
  have hunlock : ∀ (device : Path) (s : MemoryHost (Origins δ)), Encryption.mappingName device = some name →
      (s.perform (Origins.toolbox which) (unlock device boundOptions)).1 = .ok () :=
    fun device s hname => unlock_ok hremembers hsecret rfl hname rfl
  have hfirst : ((freshHost δ).perform (Origins.toolbox which) (MountPoint.isFree ⟨"/a"⟩)).1 = .ok true := by
    rw [perform_isFree, freshHost, lookup_sharedHost.1]
    rfl
  obtain ⟨entry, hpath, hfiles, hentries⟩ := publish_of_free p harguments rfl hfirst (hunlock p _ hpname)
  have hpublished := mounts_of_publish (D := (· = p)) (o := boundOptions) (s := freshHost δ) hremembers ⟨"/a"⟩ rfl rfl nofun
  have hlater := h _ _ _ hremembers (freshHost δ) (fun _ => rfl) [.publish p ⟨"/a"⟩ boundOptions]
    (by simpa [Call.Within] using fun _ => hp) q ⟨"/b"⟩ boundOptions hq rfl
  have hafter : after (Origins.toolbox which) [.publish p ⟨"/a"⟩ boundOptions] (freshHost δ) =
      ((freshHost δ).perform (Origins.toolbox which) (publish p ⟨"/a"⟩ boundOptions)).2 := rfl
  rw [hafter] at hlater
  generalize ((freshHost δ).perform (Origins.toolbox which) (publish p ⟨"/a"⟩ boundOptions)).2 = u at *
  replace hentries : u.entries = [entry] := hentries
  have hsecond : (u.perform (Origins.toolbox which) (MountPoint.isFree ⟨"/b"⟩)).1 = .ok true := by
    have hother : entry.matchesPath ⟨"/b"⟩ = false := by
      have hresolved : (freshHost δ).resolve ⟨"/a"⟩ = ⟨"/a"⟩ := by
        rw [MemoryHost.resolve, freshHost, MountPoint.canonical_of_lookup lookup_sharedHost.1]
      rw [MountEntry.matchesPath, hpath, hresolved]
      decide +kernel
    have hlooked : MountPoint.lookup u.files ⟨"/b"⟩ = .ok ⟨"/b"⟩ := by
      rw [hfiles]
      exact lookup_sharedHost.2
    rw [perform_isFree, hlooked, hentries]
    simp [Except.map, hother]
  obtain ⟨other, _, _, hadded⟩ := publish_of_free q harguments rfl hsecond (hunlock q _ hqname)
  obtain ⟨_, _, p', hname, _, _, rfl, hpname', horigin⟩ := hpublished.resolve_left (by rw [hentries]; simp [freshHost])
  have hkept := origin_of_publish hremembers q ⟨"/b"⟩ boundOptions horigin
  obtain ⟨_, _, hqname', _, _, hown⟩ := hlater.resolve_left (by rw [hadded]; simp)
  obtain rfl := Option.some.inj (hpname.symm.trans hpname')
  obtain rfl := Option.some.inj (hqname.symm.trans hqname')
  exact Option.some.inj (hkept.symm.trans hown)

/-- Whatever was published and withdrawn before, an encrypted publish mounts a mapping that was opened on its own device, as long as
no two of the devices share a file name; and no longer. -/
theorem alwaysMountsOwn_iff (which : Path → δ) (D : Path → Prop) :
    AlwaysMountsOwn which D ↔
      ∀ p q name, D p → D q → p.fileName = some name → q.fileName = some name → which p = which q := by
  constructor
  · intro h p q name hp hq hpname hqname
    exact which_eq_of_alwaysMountsOwn h hp hq hpname hqname
  · intro hnames τ tools origin hremembers s hinactive calls hcalls device target o hdevice hsecret
    have hkeeps : KeepsOrigins which origin D (after tools calls s).tools :=
      keepsOrigins_after hremembers hcalls fun name d hd => nomatch (hinactive name).symm.trans hd
    rcases mounts_of_publish hremembers target hdevice hsecret hkeeps with
      hsame | ⟨name, entry, p, hname, hadded, hlisted, hp, hpname, horigin⟩
    · exact Or.inl hsame
    · rw [hnames p device name hp hdevice hpname hname] at horigin
      exact Or.inr ⟨name, entry, hname, hadded, hlisted, horigin⟩

/-- The second of two devices called `vol` is mounted through the mapping that was opened on the first. -/
theorem foreign_mapping_mounted :
    let tools := Origins.toolbox fun p : Path => p
    let u := ((freshHost Path).perform tools (publish ⟨"/dev/a/vol"⟩ ⟨"/a"⟩ boundOptions)).2
    let v := (u.perform tools (publish ⟨"/dev/b/vol"⟩ ⟨"/b"⟩ boundOptions)).2
    RemembersOrigins tools (fun p => p) (fun t => t) ∧
      v.entries = u.entries ++ [⟨⟨"/dev/mapper/vol"⟩, ⟨"/b"⟩, "", ["bind"], 0, 0⟩] ∧ v.tools "vol" = some ⟨"/dev/a/vol"⟩ :=
  ⟨Origins.remembersOrigins _, by decide +kernel, by decide +kernel⟩

end Publication

end VolumeDriver
