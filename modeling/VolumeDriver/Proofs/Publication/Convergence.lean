import VolumeDriver.Proofs.Publication.Target

/-!
# Publishing again what was cut short

A publish may be cut short by any of the commands that it runs, and is made again. Past the target nothing is lost or done twice
(`Underway.attempt`), so whether the publish that is not cut short ends as if it had been the first is decided at the target:
interrupted publishes converge exactly if the target is steady (`converges_iff_steady`). A target for which the mount table still
lists a directory that is gone is not (`stale_target_diverges`): once it is made it passes for mounted, and is never mounted at.
-/

namespace VolumeDriver

open Program HostTask

namespace Publication

/-! ## Attempts past the target -/

section Attempts

variable {device target : Path} {o : PublishOptions} {arguments : List String} {s u v : Scene Devices}

/-- The target is free and the device is still to be attached as from `s`, or it was attached and the target is taken. -/
def Underway (device target : Path) (o : PublishOptions) (arguments : List String) (s v : Scene Devices) : Prop :=
  (v.outcome Devices.toolbox (MountPoint.isFree target)).1 = .ok true ∧
      v.outcome Devices.toolbox (attach device target o arguments) = s.outcome Devices.toolbox (attach device target o arguments) ∨
    (v.outcome Devices.toolbox (MountPoint.isFree target)).1 = .ok false ∧
      s.outcome Devices.toolbox (attach device target o arguments) = (.ok (), v)

/-- An attempt to attach a device leaves it to be attached, or attaches it. -/
theorem underway_of_attach (hdevice : device.mapping = none) (hunbroken : Text.Unbroken o.fsType.toList)
    (hfree : (u.outcome Devices.toolbox (MountPoint.isFree target)).1 = .ok true)
    (hsame : u.outcome Devices.toolbox (attach device target o arguments) =
      s.outcome Devices.toolbox (attach device target o arguments)) {r : Except PublishError Unit}
    (h : u.Attempt Devices.toolbox Devices.meaningful (attach device target o arguments) r v) :
    Underway device target o arguments s v := by
  have hresumes := @resumes_attach device target o arguments hdevice hunbroken u
  rcases mounts_attach u r v h with ⟨⟨e, rfl⟩, hv⟩ | ⟨rfl, entry, hpath, hv⟩
  · refine Or.inl ⟨?_, ?_⟩
    · rw [hv, MountPoint.isFree_withTools Devices.toolbox, hfree]
    · rw [hresumes.resumes e v h, hsame]
  · refine Or.inr ⟨?_, ?_⟩
    · refine MountPoint.isFree_of_mounted Devices.toolbox hfree ?_ ?_ hpath
      · rw [hv]
        rfl
      · rw [hv]
        simp
    · rw [← hsame, hresumes.completes () v h]

/-- Once the target is prepared, every attempt stays on the way. -/
theorem Underway.attempt (hdevice : device.mapping = none) (hunbroken : Text.Unbroken o.fsType.toList)
    (harguments : o.formatArguments = .ok arguments) (hu : Underway device target o arguments s u)
    {r : Except PublishError Unit} (h : u.Attempt Devices.toolbox Devices.meaningful (publish device target o) r v) :
    Underway device target o arguments s v := by
  have hparts := attempt_publish Devices.toolbox harguments h
  rcases hu with ⟨hfree, hsame⟩ | ⟨htaken, hdone⟩
  · rw [prepareTarget_of_found Devices.toolbox hfree] at hparts
    exact underway_of_attach hdevice hunbroken hfree hsame hparts
  · rw [prepareTarget_of_found Devices.toolbox htaken] at hparts
    obtain ⟨_, rfl⟩ := hparts
    exact Or.inr ⟨htaken, hdone⟩

/-- A publish that is under way ends as the device is attached from the start. -/
theorem Underway.outcome (harguments : o.formatArguments = .ok arguments) (hu : Underway device target o arguments s u) :
    u.outcome Devices.toolbox (publish device target o) =
      s.outcome Devices.toolbox (attach device target o arguments) := by
  rw [outcome_publish Devices.toolbox harguments]
  rcases hu with ⟨hfree, hsame⟩ | ⟨htaken, hdone⟩
  · rw [prepareTarget_of_found Devices.toolbox hfree]
    exact hsame
  · rw [prepareTarget_of_found Devices.toolbox htaken, hdone]

end Attempts

/-! ## Convergence -/

section Convergence

/-- Two runs end alike: with the same answer, the same mount table, the same mappings and the same on every device. -/
def EndAlike (x y : Except PublishError Unit × MemoryHost Devices) : Prop :=
  x.1 = y.1 ∧ x.2.entries = y.2.entries ∧ x.2.tools = y.2.tools

/-- The host after publishes of which commands fail, each as planned. -/
def interrupted (device target : Path) (o : PublishOptions) (s : MemoryHost Devices) (plans : List (List (Option Fault))) :
    MemoryHost Devices := s.afterAttempts Devices.toolbox Devices.meaningful (publish device target o) plans

/-- After any publishes of which commands fail, one of which none fails ends as if it were the first. -/
def Converges (device target : Path) (o : PublishOptions) (s : MemoryHost Devices) : Prop :=
  ∀ plans, EndAlike ((interrupted device target o s plans).perform Devices.toolbox (publish device target o))
    (s.perform Devices.toolbox (publish device target o))

variable {device target : Path} {o : PublishOptions} {s : MemoryHost Devices}

/-- Hosts end alike if their scenes do. -/
theorem endAlike_iff {u : MemoryHost Devices} {t : Task Unit} :
    EndAlike (u.perform Devices.toolbox t) (s.perform Devices.toolbox t) ↔
      (u.scene.outcome Devices.toolbox t).1 = (s.scene.outcome Devices.toolbox t).1 ∧
        (u.scene.outcome Devices.toolbox t).2.entries = (s.scene.outcome Devices.toolbox t).2.entries ∧
        (u.scene.outcome Devices.toolbox t).2.tools = (s.scene.outcome Devices.toolbox t).2.tools := by
  rw [MemoryHost.outcome_scene, MemoryHost.outcome_scene]
  rfl

/-- Hosts on whose scenes a task ends in the same way end alike. -/
theorem endAlike_of_outcome {u : MemoryHost Devices} {t : Task Unit}
    (h : u.scene.outcome Devices.toolbox t = s.scene.outcome Devices.toolbox t) :
    EndAlike (u.perform Devices.toolbox t) (s.perform Devices.toolbox t) := by
  rw [endAlike_iff, h]
  exact ⟨rfl, rfl, rfl⟩

/-- What every attempt to publish preserves is preserved by all of them. -/
theorem interrupted_preserves {P : Scene Devices → Prop}
    (hstep : ∀ u r v, P u → u.Attempt Devices.toolbox Devices.meaningful (publish device target o) r v → P v)
    (plans : List (List (Option Fault))) (hs : P s.scene) : P (interrupted device target o s plans).scene :=
  s.afterAttempts_preserves Devices.toolbox Devices.meaningful (publish device target o) hstep plans hs

/-- What no attempt changes makes no difference. -/
theorem converges_of_unchanged (h : ∀ r v, s.scene.Attempt Devices.toolbox Devices.meaningful (publish device target o) r v →
    v = s.scene) : Converges device target o s := by
  intro plans
  have hsame := interrupted_preserves (P := fun v => v = s.scene) (fun u r v hu ha => h r v (hu ▸ ha)) plans rfl
  exact endAlike_of_outcome (by rw [hsame])

/-- Attempts at a target that is refused prepare it over and over. -/
theorem converges_of_refused {arguments : List String} {e : MountError} (harguments : o.formatArguments = .ok arguments)
    (h : ∀ n, (((prepared Devices.toolbox target o.block)^[n] s.scene).outcome Devices.toolbox
      (prepareTarget target o.block)).1 = .error e) : Converges device target o s := by
  intro plans
  have hstep : ∀ u r v, (∃ n, u = (prepared Devices.toolbox target o.block)^[n] s.scene) →
      u.Attempt Devices.toolbox Devices.meaningful (publish device target o) r v →
      ∃ n, v = (prepared Devices.toolbox target o.block)^[n] s.scene := by
    rintro u r v ⟨n, rfl⟩ ha
    exact ⟨n + 1, by rw [Function.iterate_succ_apply', attempt_of_refused harguments (h n) ha]⟩
  obtain ⟨n, hn⟩ := interrupted_preserves hstep plans ⟨0, rfl⟩
  obtain ⟨files, hkept⟩ := kept_by_prepared Devices.toolbox target o.block (n + 1) s.scene
  obtain ⟨files', hkept'⟩ := kept_by_prepared Devices.toolbox target o.block 1 s.scene
  rw [Function.iterate_succ_apply'] at hkept
  rw [Function.iterate_one] at hkept'
  rw [endAlike_iff, hn, outcome_of_refused harguments (h n), hkept, outcome_of_refused (s := s.scene) harguments (h 0), hkept']
  exact ⟨rfl, rfl, rfl⟩

/-- Attempts at a target that stays free get on with the device. -/
theorem converges_of_free {arguments : List String} {u : Scene Devices} (hdevice : device.mapping = none)
    (hunbroken : Text.Unbroken o.fsType.toList) (harguments : o.formatArguments = .ok arguments)
    (hprepare : s.scene.outcome Devices.toolbox (prepareTarget target o.block) = (.ok true, u))
    (hfree : (u.outcome Devices.toolbox (MountPoint.isFree target)).1 = .ok true) : Converges device target o s := by
  intro plans
  have hstep : ∀ v r w, (v = s.scene ∨ Underway device target o arguments u v) →
      v.Attempt Devices.toolbox Devices.meaningful (publish device target o) r w →
      w = s.scene ∨ Underway device target o arguments u w := by
    rintro v r w (rfl | hv) ha
    · have hparts := attempt_publish Devices.toolbox harguments ha
      rw [hprepare] at hparts
      exact Or.inr (underway_of_attach hdevice hunbroken hfree rfl hparts)
    · exact Or.inr (hv.attempt hdevice hunbroken harguments ha)
  have hfirst : s.scene.outcome Devices.toolbox (publish device target o) =
      u.outcome Devices.toolbox (attach device target o arguments) := by
    rw [outcome_publish Devices.toolbox harguments, hprepare]
  refine endAlike_of_outcome ?_
  rcases interrupted_preserves hstep plans (Or.inl rfl) with hsame | hunderway
  · rw [hsame]
  · rw [hunderway.outcome harguments, hfirst]

/-- A publish to a target that is steady converges. -/
theorem converges_of_steady (hdevice : device.mapping = none) (hunbroken : Text.Unbroken o.fsType.toList)
    (hsteady : Steady Devices.toolbox target o.block s.scene) : Converges device target o s := by
  cases harguments : o.formatArguments with
  | error e =>
    refine converges_of_unchanged fun r v h => ?_
    have hpublish : publish device target o = throw e := by rw [publish, harguments]
    rw [hpublish] at h
    cases h.of_quiet (quiet_throw e)
    rfl
  | ok arguments =>
    unfold Steady at hsteady
    rcases hprepare : s.scene.outcome Devices.toolbox (prepareTarget target o.block) with ⟨e | _ | _, u⟩
    · rw [hprepare] at hsteady
      exact converges_of_refused harguments hsteady
    · refine converges_of_unchanged fun r v h => ?_
      have hparts := attempt_publish Devices.toolbox harguments h
      rw [hprepare] at hparts
      rw [hparts.2, prepareTarget_of_taken Devices.toolbox hprepare]
    · rw [hprepare] at hsteady
      exact converges_of_free hdevice hunbroken harguments hprepare hsteady

/-! ## Nothing else converges

A target that is not steady is told by a device that is encrypted and open and carries a filesystem, so that publishing it takes
no more than the target and a mount: an attempt that its first probe cuts short leaves the target made, and one that is not cut
short leaves the device mounted. -/

/-- Attaching a device that is open only mounts it. -/
theorem outcome_attach_of_open {arguments : List String} {passphrase name : String} {u : Scene Devices}
    (hsecret : o.secret = some passphrase) (hname : Encryption.mappingName device = some name)
    (hunbroken : Text.Unbroken o.fsType.toList) (hencrypted : u.tools.Shows device Encryption.formatName)
    (hactive : (u.tools.active name).isSome = true)
    (hcarries : u.tools.Shows (Encryption.mappingPath name) (Disk.chosen o.fsType)) :
    ∃ entry, u.outcome Devices.toolbox (attach device target o arguments) =
      (.ok (), { u with entries := u.entries ++ [entry] }) := by
  rw [attach_of_secret hsecret hname, Scene.outcome_bind, settles_encrypt.settled u hencrypted]
  dsimp only
  rw [Scene.outcome_bind, Encryption.settles_openMapping.onHost.settled u hactive]
  dsimp only
  rw [Scene.outcome_onHost, mountAt]
  split
  · exact ⟨_, rfl⟩
  · rw [Disk.mountFormatted_eq, Scene.outcome_bind,
      (Disk.settles_prepare (Disk.chosen_ne _) (Disk.unbroken_chosen hunbroken)).settled u hcarries]
    exact ⟨_, rfl⟩

/-- A command that fails at once. -/
def crash : Fault := ⟨some 1, "", false⟩

/-- If the first probe fails, nothing is done. -/
theorem outcome_attach_of_crash {arguments : List String} {passphrase name : String} (hsecret : o.secret = some passphrase)
    (hname : Encryption.mappingName device = some name) (u : Scene Devices) :
    ((u.planned [some crash]).outcome (Devices.toolbox.faulty Devices.meaningful) (attach device target o arguments)).2 =
      u.planned [] := by
  have hprobe : (u.planned [some crash]).outcome (Devices.toolbox.faulty Devices.meaningful) (Disk.format device) =
      (.error (.probeFailed (Disk.probe device) ⟨some 1, ""⟩), u.planned []) := rfl
  rw [attach_of_secret hsecret hname, encrypt, Scene.outcome_bind, Scene.outcome_bind, Scene.outcome_onHost, hprobe]
  rfl

def openDevice : Path := ⟨"/dev/sdb"⟩

def openDevices : Devices where
  number _ := 0
  contents
    | .raw _ => .encrypted
    | .inside _ => .filesystem "ext4"
  active _ := some (.raw 0)

/-- How the open device is published. -/
def openOptions (block : Bool) : PublishOptions where
  block := block
  passphrase := some "secret"

variable {block : Bool} {u : Scene Devices}

/-- The open device is no mapping. -/
theorem mapping_openDevice : openDevice.mapping = none := by decide +kernel

/-- The mapping of the open device has a name. -/
theorem mappingName_openDevice : Encryption.mappingName openDevice = some "sdb" := by decide +kernel

/-- The filesystem asked for is a word. -/
theorem unbroken_openOptions : Text.Unbroken (openOptions block).fsType.toList :=
  show Text.Unbroken "".toList by decide

/-- The open device is attached at once, with one entry more in the mount table. -/
theorem outcome_attach_openDevice (target : Path) (block : Bool) (h : u.tools = openDevices) :
    ∃ entry, u.outcome Devices.toolbox (attach openDevice target (openOptions block) []) =
      (.ok (), { u with entries := u.entries ++ [entry] }) := by
  have hencrypted : openDevices.Shows openDevice Encryption.formatName := by
    refine Devices.shows_of_report (by decide) (by decide) ?_
    rw [Devices.locate_of_outside mapping_openDevice]
    rfl
  have hcarries : openDevices.Shows (Encryption.mappingPath "sdb") (Disk.chosen "") := by
    obtain ⟨outer, hlocate⟩ := Devices.locate_of_active (d := openDevices)
      (Devices.mapping_mappingPath mappingName_openDevice) rfl
    refine Devices.shows_of_report (by decide) (by decide) ?_
    rw [hlocate]
    rfl
  exact outcome_attach_of_open (o := openOptions block) rfl mappingName_openDevice unbroken_openOptions (h ▸ hencrypted)
    (by rw [h]; rfl) (h ▸ hcarries)

/-- To publish the open device is to prepare the target, and to attach the device if the target is free. -/
theorem outcome_publish_openDevice (v : Scene Devices) :
    v.outcome Devices.toolbox (publish openDevice target (openOptions block)) =
      match v.outcome Devices.toolbox (prepareTarget target block) with
      | (.ok true, u) => u.outcome Devices.toolbox (attach openDevice target (openOptions block) [])
      | (.ok false, u) => (.ok (), u)
      | (.error e, u) => (.error (.mount e), u) := by
  have harguments : (openOptions block).formatArguments = .ok [] := rfl
  rw [outcome_publish _ harguments, show (openOptions block).block = block from rfl]
  rcases v.outcome Devices.toolbox (prepareTarget target block) with ⟨_ | _ | _, u⟩ <;> rfl

/-- Where the target can be prepared, the open device is mounted. -/
theorem outcome_publish_of_prepared {v : Scene Devices} (htools : v.tools = openDevices)
    (hprepare : v.outcome Devices.toolbox (prepareTarget target block) = (.ok true, u)) :
    u.tools = openDevices ∧ ∃ entry, v.outcome Devices.toolbox (publish openDevice target (openOptions block)) =
      (.ok (), { u with entries := u.entries ++ [entry] }) := by
  have hkept := Scene.tools_of_quiet Devices.toolbox (quiet_prepareTarget target block) v
  rw [hprepare] at hkept
  have hopen : u.tools = openDevices := hkept.trans htools
  rw [outcome_publish_openDevice, hprepare]
  exact ⟨hopen, outcome_attach_openDevice target block hopen⟩

section Refused

variable {e : MountError}

/-- The open device fails to be published only as its target fails to be prepared. -/
theorem refused_of_outcome {v : Scene Devices} (htools : v.tools = openDevices)
    (h : (v.outcome Devices.toolbox (publish openDevice target (openOptions block))).1 = .error (.mount e)) :
    (v.outcome Devices.toolbox (prepareTarget target block)).1 = .error e := by
  rcases hprepare : v.outcome Devices.toolbox (prepareTarget target block) with ⟨e' | _ | _, u⟩
  · rw [outcome_publish_openDevice, hprepare] at h
    cases h
    rfl
  · rw [outcome_publish_openDevice, hprepare] at h
    nomatch h
  · obtain ⟨_, entry, hpublish⟩ := outcome_publish_of_prepared htools hprepare
    rw [hpublish] at h
    nomatch h

/-- After attempts that did no more than prepare the target, a target that was refused is refused still. -/
theorem refused_of_interrupted (htools : s.tools = openDevices) (h : Converges openDevice target (openOptions block) s)
    (hrefused : (s.scene.outcome Devices.toolbox (prepareTarget target block)).1 = .error e)
    {plans : List (List (Option Fault))} {n : Nat} (hscene : (interrupted openDevice target (openOptions block) s plans).scene =
      (prepared Devices.toolbox target block)^[n] s.scene) :
    (((prepared Devices.toolbox target block)^[n] s.scene).outcome Devices.toolbox (prepareTarget target block)).1 =
      .error e := by
  have hfirst : s.scene.outcome Devices.toolbox (publish openDevice target (openOptions block)) = _ :=
    outcome_of_refused (rfl : (openOptions block).formatArguments = .ok []) hrefused
  obtain ⟨files, hkept⟩ := kept_by_prepared Devices.toolbox target block n s.scene
  refine refused_of_outcome ?_ ?_
  · rw [hkept]
    exact htools
  · rw [← hscene, (endAlike_iff.1 (h plans)).1, hfirst]

/-- Attempts that nothing cuts short prepare a target over and over, as each is refused. -/
theorem refused_of_converges (htools : s.tools = openDevices) (h : Converges openDevice target (openOptions block) s)
    (hrefused : (s.scene.outcome Devices.toolbox (prepareTarget target block)).1 = .error e) (n : Nat) :
    (((prepared Devices.toolbox target block)^[n] s.scene).outcome Devices.toolbox (prepareTarget target block)).1 =
      .error e := by
  have hscene : ∀ n, (interrupted openDevice target (openOptions block) s (List.replicate n [])).scene =
      (prepared Devices.toolbox target block)^[n] s.scene := by
    intro n
    induction n with
    | zero => rfl
    | succ n ih =>
      have hn := refused_of_interrupted htools h hrefused ih
      rw [List.replicate_succ', interrupted, MemoryHost.afterAttempts_concat, MemoryHost.scene_afterAttempt_nil, ← interrupted,
        ih, Function.iterate_succ_apply', outcome_publish_openDevice]
      rcases hprepare : ((prepared Devices.toolbox target block)^[n] s.scene).outcome Devices.toolbox
        (prepareTarget target block) with ⟨r, u⟩
      rw [hprepare] at hn
      cases hn
      rw [prepared, hprepare]
  exact refused_of_interrupted htools h hrefused (hscene n)

end Refused

section Made

variable (htools : s.tools = openDevices) (h : Converges openDevice target (openOptions block) s)
  (hprepare : s.scene.outcome Devices.toolbox (prepareTarget target block) = (.ok true, u))

include htools hprepare

/-- An attempt that the first probe cuts short makes the target and no more. -/
theorem scene_of_crash : (interrupted openDevice target (openOptions block) s [[some crash]]).scene = u := by
  have hopen := (outcome_publish_of_prepared (v := s.scene) htools hprepare).1
  have hplanned : (s.scene.planned [some crash]).outcome (Devices.toolbox.faulty Devices.meaningful)
      (prepareTarget target block) = (.ok true, u.planned [some crash]) := by
    rw [Scene.planned, Scene.outcome_of_quiet Devices.toolbox (quiet_prepareTarget target block), hprepare, Scene.planned, hopen,
      ← htools]
    rfl
  rw [interrupted, MemoryHost.afterAttempts, List.foldl_cons, List.foldl_nil, MemoryHost.scene_afterAttempt,
    outcome_publish _ (rfl : (openOptions block).formatArguments = .ok []), show (openOptions block).block = block from rfl,
    hplanned]
  dsimp only
  rw [outcome_attach_of_crash rfl mappingName_openDevice]
  rfl

include h

/-- The next publish goes on from there. -/
theorem outcome_of_made : ∃ entry,
    (u.outcome Devices.toolbox (publish openDevice target (openOptions block))).1 = .ok () ∧
      (u.outcome Devices.toolbox (publish openDevice target (openOptions block))).2.entries = u.entries ++ [entry] := by
  obtain ⟨_, entry, hfirst⟩ := outcome_publish_of_prepared (v := s.scene) htools hprepare
  have halike := endAlike_iff.1 (h [[some crash]])
  rw [scene_of_crash htools hprepare, hfirst] at halike
  exact ⟨entry, halike.1, halike.2.1⟩

/-- A target that is made is not taken, as the device would not be mounted then. -/
theorem not_taken_of_converges : (u.outcome Devices.toolbox (MountPoint.isFree target)).1 ≠ .ok false := by
  intro htaken
  obtain ⟨entry, _, hentries⟩ := outcome_of_made htools h hprepare
  rw [outcome_publish_openDevice, prepareTarget_of_found Devices.toolbox htaken] at hentries
  simp at hentries

/-- A target that is made is not missing still, as a publish made again would mount the device twice. -/
theorem not_missing_of_converges {e : MountError} (hmissing : (u.outcome Devices.toolbox (MountPoint.isFree target)).1 = .error e)
    (hnotFound : e.isNotFound = true) (hmake : (u.outcome Devices.toolbox (makeTarget target block)).1 = .ok ()) : False := by
  obtain ⟨hopen, entry, hfirst⟩ := outcome_publish_of_prepared (v := s.scene) htools hprepare
  obtain ⟨files, hagain⟩ := prepareTarget_again (v := { u with entries := u.entries ++ [entry] }) Devices.toolbox hmissing
    hnotFound hmake rfl
  obtain ⟨entry', hattach⟩ := outcome_attach_openDevice target block
    (u := { u with entries := u.entries ++ [entry], files := files }) hopen
  have htwice := (endAlike_iff.1 (h [[]])).2.1
  rw [interrupted, MemoryHost.afterAttempts, List.foldl_cons, List.foldl_nil, MemoryHost.scene_afterAttempt_nil, hfirst,
    outcome_publish_openDevice, hagain] at htwice
  dsimp only at htwice
  rw [hattach] at htwice
  simp at htwice

/-- Where publishes converge, a target that was made is found free. -/
theorem free_of_converges : (u.outcome Devices.toolbox (MountPoint.isFree target)).1 = .ok true := by
  cases hfree : (u.outcome Devices.toolbox (MountPoint.isFree target)).1 with
  | ok free =>
    cases free with
    | true => rfl
    | false => exact absurd hfree (not_taken_of_converges htools h hprepare)
  | error e =>
    obtain ⟨_, hanswer, _⟩ := outcome_of_made htools h hprepare
    rw [outcome_publish_openDevice, prepareTarget_of_failure Devices.toolbox hfree] at hanswer
    cases hnotFound : e.isNotFound with
    | false =>
      rw [hnotFound] at hanswer
      nomatch hanswer
    | true =>
      rw [hnotFound] at hanswer
      rcases hmake : u.outcome Devices.toolbox (makeTarget target block) with ⟨e' | _, v⟩
      · rw [hmake] at hanswer
        nomatch hanswer
      · exact (not_missing_of_converges htools h hprepare hfree hnotFound (congrArg Prod.fst hmake)).elim

end Made

/-- A publish of the open device that converges has a steady target. -/
theorem steady_of_converges (htools : s.tools = openDevices) (h : Converges openDevice target (openOptions block) s) :
    Steady Devices.toolbox target block s.scene := by
  unfold Steady
  rcases hprepare : s.scene.outcome Devices.toolbox (prepareTarget target block) with ⟨e | _ | _, u⟩
  · exact refused_of_converges htools h (congrArg Prod.fst hprepare)
  · trivial
  · exact free_of_converges htools h hprepare

/-- Interrupted publishes at a target converge, for every device that is no mapping, whatever is on the devices and whichever
mappings are active, and for all options, exactly if the target is steady. -/
theorem converges_iff_steady (target : Path) (block : Bool) (s : MemoryHost Devices) :
    (∀ (d : Devices) (device : Path) (o : PublishOptions), device.mapping = none → o.block = block →
        Text.Unbroken o.fsType.toList → Converges device target o (s.withTools d)) ↔
      Steady Devices.toolbox target block s.scene := by
  constructor
  · intro h
    have hconverges := h openDevices openDevice (openOptions block) mapping_openDevice rfl unbroken_openOptions
    exact (steady_withTools Devices.toolbox Devices.toolbox openDevices target block s.scene).1
      (steady_of_converges rfl hconverges)
  · rintro hsteady d device o hdevice rfl hunbroken
    exact converges_of_steady hdevice hunbroken
      ((steady_withTools Devices.toolbox Devices.toolbox d target o.block s.scene).2 hsteady)

/-- A host whose mount table lists the directory `/t`, which is gone. -/
def staleHost : MemoryHost Devices where
  tools :=
    { number := fun _ => 0
      contents := fun _ => .blank
      active := fun _ => none }
  entries := [⟨⟨"/dev/sdc"⟩, ⟨"/t\\040(deleted)"⟩, "ext4", [], 0, 0⟩]

/-- The first attempt makes `/t` and fails at the probe of the device. The second takes `/t` for mounted and mounts nothing. -/
theorem stale_target_diverges :
    (⟨"/dev/sdb"⟩ : Path).mapping = none ∧ Text.Unbroken ({} : PublishOptions).fsType.toList ∧
      ¬ Converges ⟨"/dev/sdb"⟩ ⟨"/t"⟩ {} staleHost := by
  refine ⟨mapping_openDevice, by decide, fun h => ?_⟩
  have hentries := (h [[some crash]]).2.1
  revert hentries
  decide +kernel

end Convergence

end Publication

end VolumeDriver
