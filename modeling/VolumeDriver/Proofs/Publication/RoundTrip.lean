import VolumeDriver.Proofs.Mount.Clearing
import VolumeDriver.Proofs.Publication.Withdrawal

/-!
# To publish and to withdraw again

What is published where nothing was is listed once, in addition to what was listed before (`mounted_of_publish`). From such a state
on, publishing to the target is done already (`MountedOn.publish_again`), and withdrawing it takes the one entry off the table again
and removes what was made (`MountedOn.perform_cleanUp`). With tools that do not fail, to publish and to withdraw is to do nothing to the mount
table (`roundTrip_publish`). The files of a host are a tree in which all stands in directories, and stay so whatever is done
(`MemoryHost.rooted_perform`).
-/

namespace VolumeDriver

open Program HostTask Files

variable {τ : Type}

/-- Whatever a program does, all that stands somewhere on its host stands in a directory. -/
theorem MemoryHost.rooted_perform {α ε : Type} (tools : Toolbox τ) (t : ExceptT ε (Program host) α) {s : MemoryHost τ}
    (hs : s.files.Rooted) : (s.perform tools t).2.files.Rooted := by
  refine run_preserves (P := fun u : MemoryHost τ => u.files.Rooted) (fun c u _ hu => ?_) (only_true t.run) hs
  cases c with
  | file c => exact FileTree.rooted_answer hu c
  | run c => exact hu
  | mount m =>
    show (u.mount m).2.files.Rooted
    unfold MemoryHost.mount
    split <;> exact hu
  | unmount p patience =>
    show (u.unmount p).2.files.Rooted
    unfold MemoryHost.unmount
    dsimp only
    split <;> exact hu
  | entries => exact hu
  | looksUnmounted p => exact hu

/-- Only what can be looked at is looked up. -/
theorem MountPoint.stat_of_lookup {files : FileTree} {p resolved : Path} (h : lookup files p = .ok resolved) :
    ∃ object, files.stat p = .ok object := by
  cases hstat : files.stat p with
  | ok object => exact ⟨object, rfl⟩
  | error e =>
    -- that nothing stands at a place that was found is no matter of permission
    obtain rfl := FileTree.stat_of_canonical (canonical_of_lookup h) hstat
    rw [lookup, hstat] at h
    cases h

namespace Publication

variable {tools : Toolbox τ} {device target : Path} {o : PublishOptions} {arguments : List String} {block free : Bool}
  {s u : MemoryHost τ}

/-! ## A target is made -/

theorem created_of_createFile (h : s.perform tools (askFiles (.createFile target)) = (.ok (), u)) :
    s.files.createFile target = .ok u.files :=
  FileTree.of_change_ok (MemoryHost.of_perform_askFiles tools h).1

/-- A target at which nothing is, is made where nothing is. -/
theorem madeIn_of_makeTarget (hplain : target.Plain) (hrooted : s.files.Rooted) (hvacant : s.files.Vacant target)
    (h : s.perform tools (makeTarget target block) = (.ok (), u)) : ∃ before, FileTree.MadeIn before u.files target := by
  cases block with
  | false =>
    rw [makeTarget, if_neg Bool.false_ne_true] at h
    have hmade := (MemoryHost.of_perform_askFiles tools h).1
    rcases FileTree.makeDirectoriesWithin_ok hplain hrooted hmade with ⟨_, hdirectory⟩ | ⟨t₁, d, name, hvacancy, hfiles⟩
    · obtain ⟨mode, hstat⟩ := FileTree.isDirectory_iff.1 hdirectory
      exact absurd hstat (hvacant.absent _)
    · exact ⟨t₁, d, name, _, hvacancy, .directory _, hfiles⟩
  | true =>
    rw [makeTarget, if_pos rfl] at h
    rcases List.eq_nil_or_concat (Route.ofText target.text).parts with hroot | ⟨init, last, hparts⟩
    · rw [hplain.parent_of_root hroot] at h
      exact absurd (created_of_createFile h) (FileTree.createFile_root hroot)
    · rw [List.concat_eq_append] at hparts
      obtain ⟨above, hparent, habove, hinit⟩ := hplain.parent_of_parts hparts
      rw [hparent] at h
      obtain ⟨_, v, hdirectories, hcreated⟩ := MemoryHost.of_perform_bind tools h
      exact FileTree.madeIn_of_createFile hplain habove hparts hinit hrooted hvacant (MemoryHost.of_perform_askFiles tools hdirectories).1
        (created_of_createFile hcreated)

/-- What was made is removed, and nothing else. -/
theorem perform_remove (tools : Toolbox τ) {before : FileTree} (h : FileTree.MadeIn before s.files target) :
    s.perform tools (MountPoint.remove target) = (.ok (), { s with files := before }) := by
  obtain ⟨d, name, object, hvacancy, hfits, hfiles⟩ := h
  have hstat : s.files.stat target = .ok object := by rw [hfiles, hvacancy.stat_put hfits]
  have hremoved : s.files.removeAs object target = .ok before := by
    rw [hfiles]
    cases hfits with
    | directory mode => exact hvacancy.removeDirectory_put mode
    | file mode hslash => exact hvacancy.removeFile_put mode hslash
  rw [MountPoint.perform_remove tools hstat, hremoved]

/-- Where nothing is, to prepare a target is to make it. -/
theorem makeTarget_of_prepareTarget (hvacant : s.files.Vacant target)
    (h : s.perform tools (prepareTarget target block) = (.ok free, u)) :
    free = true ∧ s.perform tools (makeTarget target block) = (.ok (), u) := by
  cases hlookup : MountPoint.lookup s.files target with
  | ok resolved =>
    obtain ⟨object, hstat⟩ := MountPoint.stat_of_lookup hlookup
    exact absurd hstat (hvacant.absent object)
  | error e =>
    rw [prepareTarget, MemoryHost.perform_bind, MemoryHost.perform_attempt, perform_isFree, hlookup] at h
    dsimp only [Except.map] at h
    split at h
    · obtain ⟨_, v, hmade, hdone⟩ := MemoryHost.of_perform_bind tools h
      cases hdone
      exact ⟨rfl, hmade⟩
    · cases h

/-! ## A device is published -/

/-- A device is listed for a target, after these entries, and the target was made in this tree. -/
structure MountedOn (entries : List MountEntry) (before : FileTree) (device target : Path) (s : MemoryHost τ) : Prop where
  madeIn : FileTree.MadeIn before s.files target
  listed : ∃ entry, s.entries = entries ++ [entry] ∧ entry.path = s.resolve target ∧ entry.device = device

/-- A device that could be published where nothing was is mounted there. -/
theorem mounted_of_publish (hplain : target.Plain) (hrooted : s.files.Rooted) (hvacant : s.files.Vacant target)
    (hunlisted : ∀ e ∈ s.entries, e.path.same (mountedDevice device o) = false)
    (h : s.perform tools (publish device target o) = (.ok (), u)) :
    (o.secret.isSome → ∃ name, Encryption.mappingName device = some name) ∧ u.unmountFailures = s.unmountFailures ∧
      ∃ before, MountedOn s.entries before (mountedDevice device o) target u := by
  cases harguments : o.formatArguments with
  | error e =>
    rw [publish, harguments] at h
    cases h
  | ok arguments =>
    have hkept := MemoryHost.files_of_settled tools (settled_prepareTarget target o.block) s
    rw [perform_publish tools harguments] at h
    rcases hprepared : s.perform tools (prepareTarget target o.block) with ⟨e | free, v⟩ <;> rw [hprepared] at h hkept
    · cases h
    obtain ⟨rfl, hmade⟩ := makeTarget_of_prepareTarget hvacant hprepared
    obtain ⟨before, hmadeIn⟩ := madeIn_of_makeTarget hplain hrooted hvacant hmade
    replace hkept : v = { s with files := v.files } := hkept
    obtain ⟨hnamed, fsType, options, after, log, rfl⟩ := attach_ok tools h
    have hentries : v.entries = s.entries := by rw [hkept]
    have hlisted : v.listedDevice (mountedDevice device o) options = mountedDevice device o :=
      MemoryHost.listedDevice_of_unlisted (by rwa [hentries]) options
    exact ⟨hnamed, by rw [hkept], before, hmadeIn, _, congrArg (· ++ _) hentries, rfl, hlisted⟩

/-! ## What is mounted can be withdrawn -/

namespace MountedOn

variable {entries : List MountEntry} {before : FileTree}

/-- What was made can be looked at. -/
theorem stat_eq (h : MountedOn entries before device target s) : ∃ object, s.files.stat target = .ok object := by
  obtain ⟨d, name, object, hvacancy, hfits, hfiles⟩ := h.madeIn
  exact ⟨object, by rw [hfiles, hvacancy.stat_put hfits]⟩

/-- The target of a mount has a canonical form, and it is resolved to that. -/
theorem canonical_eq (h : MountedOn entries before device target s) : s.files.canonical target = .ok (s.resolve target) := by
  obtain ⟨object, hstat⟩ := h.stat_eq
  obtain ⟨resolved, hresolved⟩ := MountPoint.canonical_of_stat hstat
  rw [MemoryHost.resolve, hresolved]

/-- To publish to a target at which something is mounted is to do nothing. -/
theorem publish_again (h : MountedOn entries before device target s) {device' : Path} {o' : PublishOptions}
    (harguments : o'.formatArguments = .ok arguments) : s.perform tools (publish device' target o') = (.ok (), s) := by
  obtain ⟨object, hstat⟩ := h.stat_eq
  obtain ⟨entry, hentries, hpath, _⟩ := h.listed
  have htaken := MemoryHost.perform_isFree_of_listed tools hstat ⟨entry, by simp [hentries], by rw [hpath, Path.same_self]⟩
  rw [perform_publish tools harguments, prepareTarget_of_looked tools (congrArg Prod.fst htaken)]

/-- The device that is found for the target is the one that is listed for it. -/
theorem mappingAt_eq (h : MountedOn entries before device target s)
    (hfree : ∀ e ∈ entries, e.matchesPath (s.resolve target) = false) : s.mappingAt target = Encryption.mappingName device := by
  obtain ⟨entry, hentries, hpath, rfl⟩ := h.listed
  have hsame : entry.path.same (s.resolve target) = true := by rw [hpath, Path.same_self]
  have hothers : entries.find? (fun e => e.path.same (s.resolve target)) = none :=
    List.find?_eq_none.2 fun e he => by simp [MountEntry.same_of_matchesPath (hfree e he)]
  rw [MemoryHost.mappingAt, MountTable.deviceAt, hentries, List.find?_append, hothers, Option.none_or,
    List.find?_cons_of_pos (p := fun e : MountEntry => e.path.same (s.resolve target)) hsame]
  rfl

/-- Once it is unmounted, there are the entries that were there before. -/
theorem unmounted_eq (h : MountedOn entries before device target s) (hfree : ∀ e ∈ entries, e.matchesPath (s.resolve target) = false) :
    s.unmounted target = { s with entries := entries, log := s.log ++ [.unmounted (s.resolve target)] } := by
  obtain ⟨entry, hentries, hpath, _⟩ := h.listed
  have hremoved : MountTable.removeFirst (s.resolve target) s.entries = entries := by
    rw [hentries, MountTable.removeFirst_append (fun e he => MountEntry.same_of_matchesPath (hfree e he)) (by rw [hpath, Path.same_self]),
      List.append_nil]
  rw [MemoryHost.unmounted, hremoved]

/-- To clear the target away takes its entry off the table and removes what was made. -/
theorem perform_cleanUp (tools : Toolbox τ) (h : MountedOn entries before device target s)
    (hfree : ∀ e ∈ entries, e.matchesPath (s.resolve target) = false)
    (hfailures : ∀ f ∈ s.unmountFailures, f.1.same (s.resolve target) = false) :
    s.perform tools (MountPoint.cleanUp true target) =
      (.ok (), { s with files := before, entries := entries, log := s.log ++ [.unmounted (s.resolve target)] }) := by
  obtain ⟨object, hstat⟩ := h.stat_eq
  obtain ⟨entry, hentries, hpath, _⟩ := h.listed
  have htaken : s.entries.any (·.matchesPath (s.resolve target)) = true :=
    List.any_eq_true.2 ⟨entry, by simp [hentries], by rw [MountEntry.matchesPath, hpath, Path.same_self, Bool.true_or]⟩
  have hnone : (s.unmounted target).entries.any (·.matchesPath (s.resolve target)) = false := by
    rw [h.unmounted_eq hfree]
    simpa using hfree
  have hmadeIn : FileTree.MadeIn before (s.unmounted target).files target := h.madeIn
  rw [MountPoint.perform_cleanUp tools hstat, htaken, if_pos rfl,
    MountPoint.perform_unmountAndRemove tools hstat (MemoryHost.unmount_of_unhindered hfailures), hnone, if_neg Bool.false_ne_true,
    perform_remove tools hmadeIn, h.unmounted_eq hfree]

end MountedOn

/-! ## With tools that do not fail -/

/-- The tools keep mappings as the encryption program does, and do not fail: the status of a mapping tells whether it is active, and
one that is can be closed. -/
structure ReportsMappings (tools : Toolbox τ) (active : τ → String → Prop) : Prop extends KeepsMappings tools active where
  status_of_active : ∀ t name, active t name → (tools.run (Encryption.statusCommand name) t).1.code = some 0
  status_of_inactive : ∀ t name, ¬ active t name → (tools.run (Encryption.statusCommand name) t).1.code = some Encryption.inactive
  closes : ∀ t name, active t name → (tools.run (Encryption.closeCommand name) t).1.code = some 0

variable {active : τ → String → Prop}

/-- Such tools close every mapping that they are asked to close. -/
theorem ReportsMappings.closeMapping_ok (h : ReportsMappings tools active) (name : String) (s : MemoryHost τ) :
    ∃ after log, s.perform tools (Encryption.closeMapping name) = (.ok (), { s with tools := after, log := log }) := by
  have hcommands : Only (I := host) (fun c => ∃ d, c = .run d ∧ True) (Encryption.closeMapping name).run :=
    Encryption.only_close ⟨_, rfl, trivial⟩ ⟨_, rfl, trivial⟩
  obtain ⟨ran, _, hran⟩ := MemoryHost.ranSince_of_commands tools hcommands s
  have hclosed : (s.perform tools (Encryption.closeMapping name)).1 = .ok () := by
    rcases hstatus : tools.run (Encryption.statusCommand name) s.tools with ⟨answer, t⟩
    rcases hclose : tools.run (Encryption.closeCommand name) t with ⟨answer', t'⟩
    have hinactive := h.status_of_inactive s.tools name
    have hkept := h.status s.tools name name
    rw [hstatus] at hinactive hkept
    rcases Encryption.closeMapping_cases tools name s hstatus hclose with ⟨hzero, _, _, hresult⟩ | ⟨hother, _, _, hresult⟩
    · have hactive : active s.tools name := by
        by_contra hnot
        cases hzero.symm.trans (hinactive hnot)
      have hcloses := h.closes t name (hkept.2 hactive)
      rw [hclose] at hcloses
      exact hresult.2 hcloses
    · refine hresult.2 (hinactive fun hactive => hother ?_)
      have hzero := h.status_of_active s.tools name hactive
      rwa [hstatus] at hzero
  exact ⟨_, _, Prod.ext hclosed hran⟩

/-- What was published at a target where nothing was, is listed once more than before. To publish to the target again does nothing.
To withdraw it gives the mount table from before and leaves nothing at the target, and no mapping of the device. -/
structure RoundTrip (tools : Toolbox τ) (active : τ → String → Prop) (device target : Path) (o : PublishOptions)
    (s u : MemoryHost τ) : Prop where
  listed : ∃ entry, u.entries = s.entries ++ [entry] ∧ u.files.canonical target = .ok entry.path ∧
    match o.secret with
    | none => entry.device = device
    | some _ => ∃ name, device.fileName = some name ∧ entry.device.text = "/dev/mapper/" ++ name
  again : ∀ (device' : Path) (o' : PublishOptions) (arguments : List String), o'.formatArguments = .ok arguments →
    u.perform tools (publish device' target o') = (.ok (), u)
  undone : ∃ v, u.perform tools (unpublish target) = (.ok (), v) ∧ v.entries = s.entries ∧ v.files.Vacant target ∧
    ∀ name, device.fileName = some name → ¬ active v.tools name

/-- With tools that do not fail, to publish a device where nothing was and to withdraw it is to do nothing to the mount table, unless
something is listed for the target or for what is mounted already, or the target cannot be unmounted. -/
theorem roundTrip_publish (htools : ReportsMappings tools active) (hplain : target.Plain) (hrooted : s.files.Rooted)
    (hvacant : s.files.Vacant target) (h : s.perform tools (publish device target o) = (.ok (), u))
    (hfree : ∀ e ∈ s.entries, e.matchesPath (u.resolve target) = false)
    (hunlisted : ∀ e ∈ s.entries, e.path.same (mountedDevice device o) = false)
    (hfailures : ∀ f ∈ s.unmountFailures, f.1.same (u.resolve target) = false) : RoundTrip tools active device target o s u := by
  obtain ⟨hnamed, hkept, before, hmounted⟩ := mounted_of_publish hplain hrooted hvacant hunlisted h
  have hcleared := hmounted.perform_cleanUp tools hfree (by rwa [hkept])
  have hmapping := (hmounted.mappingAt_eq hfree).trans (mappingName_mountedDevice device o)
  refine ⟨?_, fun _ _ _ => hmounted.publish_again, ?_⟩
  · obtain ⟨entry, hentries, hpath, hdevice⟩ := hmounted.listed
    refine ⟨entry, hentries, by rw [hmounted.canonical_eq, hpath], ?_⟩
    cases hsecret : o.secret with
    | none => rw [hdevice, mountedDevice, hsecret]
    | some passphrase =>
      obtain ⟨name, hname⟩ := hnamed (by rw [hsecret]; rfl)
      exact ⟨name, hname, by rw [hdevice, mountedDevice_of_name hsecret hname, Encryption.text_mappingPath hname]⟩
  · have hundone : ∃ v, u.perform tools (unpublish target) = (.ok (), v) ∧ v.entries = s.entries ∧ v.files = before := by
      rw [perform_unpublish, hcleared, hmapping]
      cases Encryption.mappingName device with
      | none => exact ⟨_, rfl, rfl, rfl⟩
      | some name =>
        dsimp only
        obtain ⟨after, log, hclosed⟩ := htools.closeMapping_ok name _
        rw [MemoryHost.perform_onHost, hclosed]
        exact ⟨_, rfl, rfl, rfl⟩
    obtain ⟨v, hundone, hentries, hfiles⟩ := hundone
    obtain ⟨d, name, object, hvacancy, _, _⟩ := hmounted.madeIn
    refine ⟨v, hundone, hentries, by rw [hfiles]; exact hvacancy.vacant hvacancy.free, fun name hname hactive => ?_⟩
    have hclosed := active_unpublish_iff htools.toKeepsMappings target name u
    rw [hundone] at hclosed
    exact (hclosed.1 hactive).2 ⟨hmapping.trans hname, rfl⟩

/-- Tools of which none fails. -/
def MappingTools.reliable : Toolbox MappingTools where
  run := act

/-- The tools of which none fails report their mappings. -/
theorem MappingTools.reportsMappings : ReportsMappings reliable fun t name => name ∈ t.active where
  inactive_of_status t name := by
    dsimp only [reliable]
    simp [act_status, Encryption.inactive]
  status t name other := Iff.rfl
  closed t name := by
    dsimp only [reliable]
    rw [act_close]
    split <;> simp [CommandOutput.success, Encryption.inactive]
  failed t name := by
    dsimp only [reliable]
    rw [act_close]
    split <;> simp [CommandOutput.success]
  status_of_active t name hactive := by
    dsimp only [reliable]
    rw [act_status, if_pos hactive]
  status_of_inactive t name hinactive := by
    dsimp only [reliable]
    rw [act_status, if_neg hinactive]
  closes t name hactive := by
    dsimp only [reliable]
    rw [act_close, if_pos hactive]
    rfl

/-- A directory `/c` at which a device is mounted, and nothing else. -/
def otherHost : MemoryHost MappingTools where
  tools := {}
  files := Files.FileTree.put {} ["c"] (.directory 0o750)
  entries := [⟨⟨"/dev/sdc"⟩, ⟨"/c"⟩, "ext4", [], 0, 0⟩]

/-- A blank device is encrypted and mounted at `/a/t`, where nothing was. -/
theorem roundTrip_publish_blank :
    let o : PublishOptions := { passphrase := some "secret" }
    let u := (otherHost.perform MappingTools.reliable (publish ⟨"/dev/sdb"⟩ ⟨"/a/t"⟩ o)).2
    ((⟨"/a/t"⟩ : Path).Plain ∧ otherHost.files.Rooted ∧ otherHost.files.Vacant ⟨"/a/t"⟩ ∧
        otherHost.perform MappingTools.reliable (publish ⟨"/dev/sdb"⟩ ⟨"/a/t"⟩ o) = (.ok (), u) ∧
        (∀ e ∈ otherHost.entries, e.matchesPath (u.resolve ⟨"/a/t"⟩) = false) ∧
        (∀ e ∈ otherHost.entries, e.path.same (mountedDevice ⟨"/dev/sdb"⟩ o) = false) ∧
        ∀ f ∈ otherHost.unmountFailures, f.1.same (u.resolve ⟨"/a/t"⟩) = false) ∧
      RoundTrip MappingTools.reliable (fun t name => name ∈ t.active) ⟨"/dev/sdb"⟩ ⟨"/a/t"⟩ o otherHost u := by
  intro o u
  have hplain : (⟨"/a/t"⟩ : Path).Plain := ⟨by decide +kernel, by decide +kernel⟩
  have hrooted : otherHost.files.Rooted := FileTree.rooted_of_entries (by decide +kernel)
  have hvacant : otherHost.files.Vacant ⟨"/a/t"⟩ := by
    have hmissing : otherHost.files.stat ⟨"/a/t"⟩ = .error (.os .noEntry) := by rfl
    refine ⟨fun object hstat => ?_, by decide +kernel⟩
    cases hmissing.symm.trans hstat
  have hpublished : otherHost.perform MappingTools.reliable (publish ⟨"/dev/sdb"⟩ ⟨"/a/t"⟩ o) = (.ok (), u) := by
    have hok : (otherHost.perform MappingTools.reliable (publish ⟨"/dev/sdb"⟩ ⟨"/a/t"⟩ o)).1.isOk = true := by decide +kernel
    rcases hrun : otherHost.perform MappingTools.reliable (publish ⟨"/dev/sdb"⟩ ⟨"/a/t"⟩ o) with ⟨_ | _, v⟩
    · rw [hrun] at hok
      cases hok
    · exact congrArg (Prod.mk _) (congrArg Prod.snd hrun).symm
  have hfree : ∀ e ∈ otherHost.entries, e.matchesPath (u.resolve ⟨"/a/t"⟩) = false := by decide +kernel
  have hunlisted : ∀ e ∈ otherHost.entries, e.path.same (mountedDevice ⟨"/dev/sdb"⟩ o) = false := by decide +kernel
  exact ⟨⟨hplain, hrooted, hvacant, hpublished, hfree, hunlisted, nofun⟩,
    roundTrip_publish MappingTools.reportsMappings hplain hrooted hvacant hpublished hfree hunlisted nofun⟩

end Publication

end VolumeDriver
