import Mathlib.Logic.Function.Iterate
import VolumeDriver.Proofs.Publication.Formatting
import VolumeDriver.Proofs.Publication.Resumption

/-!
# A target before and after a mount

A target is looked at, and made if it is missing, before anything is done to a device (`outcome_publish`). That it is free means
that its path can be resolved and that the mount table has no entry for it, so once something is mounted there it is not free
(`MountPoint.isFree_of_mounted`). A target that was just made is taken for free without a look at the table. Whether to prepare a
target a second time makes a difference (`Steady`) is therefore a matter of the table, if the target was missing at first
(`steady_iff_of_made`).
-/

namespace VolumeDriver

open Program HostTask Files

namespace MountPoint

/-- The path that the mount table is searched for when a path is looked at. -/
def lookup (files : FileTree) (p : Path) : Except MountError Path :=
  match files.stat p with
  | .ok _ => (files.canonical p).mapError .io
  | .error e => if e.isPermission then (files.canonical p).mapError .io else .error (.io e)

/-- What can be looked at can be resolved. -/
theorem canonical_of_stat {files : FileTree} {p : Path} {object : FileObject} (h : files.stat p = .ok object) :
    ∃ resolved, files.canonical p = .ok resolved := by
  unfold FileTree.stat at h
  cases hlocate : files.locate p with
  | error e =>
    rw [hlocate] at h
    nomatch h
  | ok place => exact ⟨FileTree.render place, by rw [FileTree.canonical, hlocate]; rfl⟩

/-- A path that is looked up has that path for its canonical form. -/
theorem canonical_of_lookup {files : FileTree} {p resolved : Path} (h : lookup files p = .ok resolved) :
    files.canonical p = .ok resolved := by
  have hcanonical : (files.canonical p).mapError MountError.io = .ok resolved → files.canonical p = .ok resolved := by
    cases files.canonical p with
    | error e => nofun
    | ok found => exact fun h => congrArg Except.ok (Except.ok.inj h)
  unfold lookup at h
  split at h
  · exact hcanonical h
  · split at h
    · exact hcanonical h
    · nomatch h

variable {τ : Type} (tools : Toolbox τ)

/-- What the quick look sees is in the table. -/
theorem listed_of_seen {entries : List MountEntry} {resolved : Path} (h : entries.any (·.path.same resolved) = true) :
    entries.any (·.matchesPath resolved) = true := by
  obtain ⟨e, he, hsame⟩ := List.any_eq_true.1 h
  exact List.any_eq_true.2 ⟨e, he, by rw [MountEntry.matchesPath, hsame, Bool.true_or]⟩

/-- The search of the table for the place of a path. -/
theorem outcome_search (p : Path) (s : Scene τ) :
    s.outcome tools (do
      let resolved ← askFiles (.canonical p)
      let entries ← askHost .entries
      return !entries.any (·.matchesPath resolved) : HostTask Bool) =
        (((s.files.canonical p).mapError .io).map fun resolved => !s.entries.any (·.matchesPath resolved), s) := by
  have hresolve : s.outcome tools (askFiles (.canonical p)) = ((s.files.canonical p).mapError .io, s) := rfl
  rw [Scene.outcome_bind, hresolve]
  cases s.files.canonical p <;> rfl

/-- A path is free if it can be looked at and the table has no entry for it. -/
theorem outcome_isFree (p : Path) (s : Scene τ) :
    s.outcome tools (isFree p) = ((lookup s.files p).map fun resolved => !s.entries.any (·.matchesPath resolved), s) := by
  have hlook : s.outcome tools (askHost (.looksUnmounted p)) = (s.host.looksUnmounted p, s) := rfl
  have hfiles : s.host.files = s.files := rfl
  have hentries : s.host.entries = s.entries := rfl
  have hsearch := outcome_search tools p s
  rw [isFree, Scene.outcome_bind, Scene.outcome_attempt, hlook, MemoryHost.looksUnmounted, lookup, hfiles, hentries]
  cases hstat : s.files.stat p with
  | ok object =>
    obtain ⟨resolved, hcanonical⟩ := canonical_of_stat hstat
    have hresolved : s.host.resolve p = resolved := by rw [MemoryHost.resolve, hfiles, hcanonical]
    rw [hcanonical] at hsearch ⊢
    rw [hresolved]
    cases hseen : s.entries.any fun e => e.path.same resolved with
    | false => exact hsearch
    | true =>
      simp only [mapError_ok, Except.map, listed_of_seen hseen]
      rfl
  | error e =>
    have hpermission : (MountError.io e).isPermission = e.isPermission := rfl
    dsimp only
    rw [hpermission]
    split
    · exact hsearch
    · rfl

/-- Whether a path is free does not depend on the tools. -/
theorem isFree_withTools {υ : Type} (tools' : Toolbox υ) (t : υ) (p : Path) (s : Scene τ) :
    ((s.withTools t).outcome tools' (isFree p)).1 = (s.outcome tools (isFree p)).1 := by
  rw [outcome_isFree, outcome_isFree]
  rfl

/-- Where a path was free, it is not once something is mounted there. -/
theorem isFree_of_mounted {p : Path} {s v : Scene τ} (hfree : (s.outcome tools (isFree p)).1 = .ok true)
    (hfiles : v.files = s.files) {entry : MountEntry} (hentry : entry ∈ v.entries) (hpath : entry.path = s.host.resolve p) :
    (v.outcome tools (isFree p)).1 = .ok false := by
  rw [outcome_isFree] at hfree ⊢
  rw [hfiles]
  cases hlookup : lookup s.files p with
  | error e =>
    rw [hlookup] at hfree
    nomatch hfree
  | ok resolved =>
    have hresolved : entry.path = resolved := by
      rw [hpath, MemoryHost.resolve, show s.host.files = s.files from rfl, canonical_of_lookup hlookup]
    have hlisted : v.entries.any (·.matchesPath resolved) = true :=
      List.any_eq_true.2 ⟨entry, hentry, by rw [MountEntry.matchesPath, hresolved, Path.same_self, Bool.true_or]⟩
    simp only [Except.map, hlisted]
    rfl

/-- A path that cannot be looked at cannot be, whatever is mounted. -/
theorem isFree_of_failure {p : Path} {e : MountError} {s v : Scene τ} (h : (s.outcome tools (isFree p)).1 = .error e)
    (hfiles : v.files = s.files) : (v.outcome tools (isFree p)).1 = .error e := by
  rw [outcome_isFree] at h ⊢
  rw [hfiles]
  cases hlookup : lookup s.files p with
  | error e' =>
    rw [hlookup] at h
    exact h
  | ok resolved =>
    rw [hlookup] at h
    nomatch h

end MountPoint

namespace Publication

variable {τ : Type} (tools : Toolbox τ) {target : Path} {block : Bool} {s : Scene τ}

/-! ## Preparing a target -/

/-- A target that is found is left as it is. -/
theorem prepareTarget_of_found {free : Bool} (h : (s.outcome tools (MountPoint.isFree target)).1 = .ok free) :
    s.outcome tools (prepareTarget target block) = (.ok free, s) := by
  rw [MountPoint.outcome_isFree] at h
  dsimp only at h
  rw [prepareTarget, Scene.outcome_bind, Scene.outcome_attempt, MountPoint.outcome_isFree, h]
  rfl

/-- A target that is not found is made, and any other failure to look at it stands. -/
theorem prepareTarget_of_failure {e : MountError} (h : (s.outcome tools (MountPoint.isFree target)).1 = .error e) :
    s.outcome tools (prepareTarget target block) =
      if e.isNotFound then
        match s.outcome tools (makeTarget target block) with
        | (.ok _, u) => (.ok true, u)
        | (.error e, u) => (.error e, u)
      else (.error e, s) := by
  rw [MountPoint.outcome_isFree] at h
  dsimp only at h
  rw [prepareTarget, Scene.outcome_bind, Scene.outcome_attempt, MountPoint.outcome_isFree, h]
  dsimp only
  split
  · rw [Scene.outcome_bind]
    rcases s.outcome tools (makeTarget target block) with ⟨_ | _, u⟩ <;> rfl
  · rfl

/-- To find something mounted at a target takes no preparation. -/
theorem prepareTarget_of_taken {u : Scene τ}
    (h : s.outcome tools (prepareTarget target block) = (.ok false, u)) : u = s := by
  cases hfree : (s.outcome tools (MountPoint.isFree target)).1 with
  | ok free =>
    rw [prepareTarget_of_found tools hfree] at h
    cases h
    rfl
  | error e =>
    rw [prepareTarget_of_failure tools hfree] at h
    split at h
    · split at h <;> cases h
    · cases h

/-- To make a target touches files only. -/
theorem files_makeTarget (target : Path) (block : Bool) :
    Only (I := host) (fun c => ∃ f, c = .file f) (makeTarget target block).run := by
  unfold makeTarget
  split
  · split
    · exact Only.except_bind (only_ask ⟨_, rfl⟩) fun _ => only_ask ⟨_, rfl⟩
    · exact only_ask ⟨_, rfl⟩
  · exact only_ask ⟨_, rfl⟩

/-- To prepare a target changes files alone. -/
theorem kept_by_prepareTarget (target : Path) (block : Bool) (s : Scene τ) :
    ∃ files, (s.outcome tools (prepareTarget target block)).2 = { s with files := files } := by
  cases hfree : (s.outcome tools (MountPoint.isFree target)).1 with
  | ok free => exact ⟨s.files, by rw [prepareTarget_of_found tools hfree]⟩
  | error e =>
    have hmade := Scene.outcome_of_files tools (files_makeTarget target block) tools (rfl : s.files = s.files)
    rw [prepareTarget_of_failure tools hfree]
    split
    · rw [hmade]
      rcases s.outcome tools (makeTarget target block) with ⟨_ | _, u⟩
      · exact ⟨u.files, rfl⟩
      · exact ⟨u.files, rfl⟩
    · exact ⟨s.files, rfl⟩

/-- A target that was made and is still missing is made again, whatever was mounted there. -/
theorem prepareTarget_again {e : MountError} {u v : Scene τ}
    (hmissing : (u.outcome tools (MountPoint.isFree target)).1 = .error e) (hnotFound : e.isNotFound = true)
    (hmake : (u.outcome tools (makeTarget target block)).1 = .ok ()) (hfiles : v.files = u.files) :
    ∃ files, v.outcome tools (prepareTarget target block) = (.ok true, { v with files := files }) := by
  have hmade := Scene.outcome_of_files tools (files_makeTarget target block) tools hfiles
  rw [prepareTarget_of_failure tools (MountPoint.isFree_of_failure tools hmissing hfiles), if_pos hnotFound, hmade, hmake]
  exact ⟨_, rfl⟩

/-! ## Preparing a target again -/

/-- The scene after a target was prepared, or was to be. -/
def prepared (target : Path) (block : Bool) (s : Scene τ) : Scene τ := (s.outcome tools (prepareTarget target block)).2

/-- Preparing a target over and over changes files alone. -/
theorem kept_by_prepared (target : Path) (block : Bool) (n : Nat) (s : Scene τ) :
    ∃ files, (prepared tools target block)^[n] s = { s with files := files } := by
  induction n with
  | zero => exact ⟨s.files, rfl⟩
  | succ n ih =>
    obtain ⟨files, hn⟩ := ih
    obtain ⟨files', hstep⟩ := kept_by_prepareTarget tools target block { s with files := files }
    exact ⟨files', by rw [Function.iterate_succ_apply', hn, prepared, hstep]⟩

/-- To prepare a target once more makes no difference: where it was made it is found, and free, and where it could not be made
it never can, for the same reason. -/
def Steady (target : Path) (block : Bool) (s : Scene τ) : Prop :=
  match s.outcome tools (prepareTarget target block) with
  | (.ok true, u) => (u.outcome tools (MountPoint.isFree target)).1 = .ok true
  | (.ok false, _) => True
  | (.error e, _) => ∀ n, (((prepared tools target block)^[n] s).outcome tools (prepareTarget target block)).1 = .error e

/-- Whether a target is steady does not depend on the tools. -/
theorem steady_withTools {υ : Type} (tools' : Toolbox υ) (t : υ) (target : Path) (block : Bool) (s : Scene τ) :
    Steady tools' target block (s.withTools t) ↔ Steady tools target block s := by
  have hquiet := quiet_prepareTarget target block
  have hprepared : Function.Semiconj (fun u : Scene τ => u.withTools t) (prepared tools target block)
      (prepared tools' target block) := fun u => by
    rw [prepared, prepared, Scene.outcome_of_quiet tools hquiet]
  unfold Steady
  rw [Scene.outcome_of_quiet tools hquiet]
  rcases s.outcome tools (prepareTarget target block) with ⟨e | _ | _, u⟩
  · refine forall_congr' fun n => ?_
    rw [← (hprepared.iterate_right n).eq, Scene.outcome_of_quiet tools hquiet]
  · rfl
  · dsimp only
    rw [MountPoint.isFree_withTools tools]

/-- A target that is made is steady if it can be looked at then, and nothing that is mounted, or was mounted at a directory that
is gone, is listed for its place. -/
theorem steady_iff_of_made {u : Scene τ}
    (h : s.outcome tools (prepareTarget target block) = (.ok true, u)) :
    Steady tools target block s ↔
      ∃ resolved, MountPoint.lookup u.files target = .ok resolved ∧ ∀ e ∈ s.entries, e.matchesPath resolved = false := by
  obtain ⟨files, hkept⟩ := kept_by_prepareTarget tools target block s
  have hentries : u.entries = s.entries := by
    rw [h] at hkept
    exact congrArg (·.entries) hkept
  unfold Steady
  rw [h]
  dsimp only
  rw [MountPoint.outcome_isFree, hentries]
  cases MountPoint.lookup u.files target with
  | error e => simp [Except.map]
  | ok resolved => simp [Except.map]

/-- A target that is found is steady. -/
theorem steady_of_found {free : Bool}
    (h : (s.outcome tools (MountPoint.isFree target)).1 = .ok free) : Steady tools target block s := by
  rw [Steady, prepareTarget_of_found tools h]
  cases free with
  | false => trivial
  | true => exact h

/-! ## The parts of a publish -/

variable {device : Path} {o : PublishOptions} {arguments : List String}

/-- To publish is to prepare the target, and to attach the device if the target is free. -/
theorem publish_eq (h : o.formatArguments = .ok arguments) :
    publish device target o =
      onHost (prepareTarget target o.block) >>= fun free => if free then attach device target o arguments else pure () := by
  rw [publish, h]
  rfl

/-- A publish ends as its two parts do: the target is prepared, and the device attached if the target is free. -/
theorem outcome_publish (h : o.formatArguments = .ok arguments) (s : Scene τ) :
    s.outcome tools (publish device target o) =
      match s.outcome tools (prepareTarget target o.block) with
      | (.ok true, u) => u.outcome tools (attach device target o arguments)
      | (.ok false, u) => (.ok (), u)
      | (.error e, u) => (.error (.mount e), u) := by
  rw [publish_eq h, Scene.outcome_bind, Scene.outcome_onHost]
  rcases s.outcome tools (prepareTarget target o.block) with ⟨_ | _ | _, u⟩ <;> rfl

/-- An attempt at a publish is cut short as the device is attached. -/
theorem attempt_publish {meaningful : Command → List Int} (h : o.formatArguments = .ok arguments) {r : Except PublishError Unit}
    {v : Scene τ} (ha : s.Attempt tools meaningful (publish device target o) r v) :
    match s.outcome tools (prepareTarget target o.block) with
    | (.ok true, u) => u.Attempt tools meaningful (attach device target o arguments) r v
    | (.ok false, u) => r = .ok () ∧ v = u
    | (.error e, u) => r = .error (.mount e) ∧ v = u := by
  have hquiet := quiet_prepareTarget target o.block
  rw [publish_eq h] at ha
  rcases ha.of_bind with ⟨e, rfl, hprepare⟩ | ⟨free, u, hprepare, hrest⟩
  · obtain ⟨_ | _, he, hprepare⟩ := hprepare.of_onHost
    · rw [hprepare.of_quiet hquiet]
      cases he
      exact ⟨rfl, rfl⟩
    · nomatch he
  · obtain ⟨_ | _, hfree, hprepare⟩ := hprepare.of_onHost
    · nomatch hfree
    · rw [hprepare.of_quiet hquiet]
      cases hfree
      cases free with
      | false =>
        cases hrest.of_quiet (quiet_pure ())
        exact ⟨rfl, rfl⟩
      | true => exact hrest

/-! ## A target that cannot be prepared -/

section Refused

variable {tools} {meaningful : Command → List Int} {e : MountError} {v : Scene τ}

/-- A publish whose target cannot be prepared ends there. -/
theorem outcome_of_refused (harguments : o.formatArguments = .ok arguments)
    (h : (s.outcome tools (prepareTarget target o.block)).1 = .error e) :
    s.outcome tools (publish device target o) = (.error (.mount e), prepared tools target o.block s) := by
  rw [outcome_publish tools harguments, prepared]
  rcases hprepare : s.outcome tools (prepareTarget target o.block) with ⟨r, u⟩
  rw [hprepare] at h
  cases h
  rfl

/-- An attempt to publish to a target that cannot be prepared leaves it as far as it was prepared. -/
theorem attempt_of_refused (harguments : o.formatArguments = .ok arguments)
    (h : (s.outcome tools (prepareTarget target o.block)).1 = .error e) {r : Except PublishError Unit}
    (ha : s.Attempt tools meaningful (publish device target o) r v) : v = prepared tools target o.block s := by
  have hparts := attempt_publish tools harguments ha
  rw [prepared]
  rcases hprepare : s.outcome tools (prepareTarget target o.block) with ⟨r', u⟩
  rw [hprepare] at h hparts
  cases h
  exact hparts.2

end Refused

/-! ## Attaching a device -/

/-- An attempt at the task fails and mounts nothing, or succeeds and mounts something at the target. -/
def Mounts {ε : Type} (meaningful : Command → List Int) (target : Path) (t : ExceptT ε (Program host) Unit) : Prop :=
  ∀ (s : Scene τ) r v, s.Attempt tools meaningful t r v →
    (∃ e, r = .error e) ∧ v = s.withTools v.tools ∨
      r = .ok () ∧ ∃ entry : MountEntry, entry.path = s.host.resolve target ∧
        v = { s.withTools v.tools with entries := s.entries ++ [entry] }

section Mounting

variable {tools} {ε α : Type} {meaningful : Command → List Int}

/-- Commands before a task that mounts do not change what it mounts. -/
theorem Mounts.bind {t : ExceptT ε (Program host) α} {f : α → ExceptT ε (Program host) Unit}
    (ht : Only (I := host) (fun c => ∃ d, c = .run d) t.run) (hf : ∀ x, Mounts tools meaningful target (f x)) :
    Mounts tools meaningful target (t >>= f) := by
  intro s r v h
  rcases h.of_bind with ⟨e, rfl, hfirst⟩ | ⟨x, u, hfirst, hrest⟩
  · exact Or.inl ⟨⟨e, rfl⟩, hfirst.of_commands ht⟩
  · rcases hf x u r v hrest with ⟨he, hv⟩ | ⟨hr, entry, hpath, hv⟩
    · refine Or.inl ⟨he, ?_⟩
      rw [hv, hfirst.of_commands ht]
      rfl
    · refine Or.inr ⟨hr, entry, ?_, ?_⟩
      · rw [hpath, hfirst.of_commands ht]
        rfl
      · rw [hv, hfirst.of_commands ht]
        rfl

theorem Mounts.onHost {t : HostTask Unit} (ht : Mounts tools meaningful target t) :
    Mounts tools meaningful target (Publication.onHost t) := by
  intro s r v h
  obtain ⟨r', rfl, ha⟩ := h.of_onHost
  rcases ht s r' v ha with ⟨⟨e, rfl⟩, hv⟩ | ⟨rfl, hentry⟩
  · exact Or.inl ⟨⟨_, rfl⟩, hv⟩
  · exact Or.inr ⟨rfl, hentry⟩

/-- A mount mounts at its target. -/
theorem mounts_mount (source target : Path) (fsType : String) (options : List String) :
    Mounts tools meaningful target (askHost (.mount ⟨some source, target, fsType, options, []⟩)) := by
  intro s r v h
  obtain ⟨rfl, rfl⟩ := attempt_mount h
  exact Or.inr ⟨rfl, _, rfl, rfl⟩

/-- To mount at a target, after any commands, mounts there. -/
theorem mounts_mountAt (source : Path) : Mounts tools meaningful target (mountAt source target o arguments) := by
  unfold mountAt
  split
  · exact mounts_mount source target _ _
  · rw [Disk.mountFormatted_eq]
    exact Mounts.bind (Disk.only_prepare ⟨_, rfl⟩ ⟨_, rfl⟩) fun _ => mounts_mount source target _ _

/-- To encrypt a device of a known format runs commands only. -/
theorem commands_encryptFor (device : Path) (passphrase : String) (readonly : Bool) (found : DiskFormat) :
    Only (I := host) (fun c => ∃ d, c = .run d) (encryptFor device passphrase readonly found).run := by
  unfold encryptFor
  split
  · split
    · trivial
    · exact only_onHost (Encryption.only_run ⟨_, rfl⟩)
  · split <;> trivial

/-- To find the source of a mount runs commands only. -/
theorem commands_source (device : Path) (o : PublishOptions) :
    Only (I := host) (fun c => ∃ d, c = .run d) (source device o).run := by
  unfold source
  split
  · rename_i passphrase _
    cases hname : Encryption.mappingName device with
    | none =>
      unfold openEncrypted
      rw [hname]
      trivial
    | some name =>
      rw [openEncrypted_eq hname]
      refine Only.except_bind (Only.except_bind (only_onHost ?_) fun found => commands_encryptFor device passphrase o.readonly found)
        fun _ => Only.except_bind (only_onHost ?_) fun _ => trivial
      · exact Only.except_bind (only_ask ⟨_, rfl⟩) fun _ => trivial
      · refine Only.except_bind (Encryption.only_isActive ⟨_, rfl⟩) fun active => ?_
        split
        · trivial
        · exact Encryption.only_run ⟨_, rfl⟩
  · trivial

/-- To attach a device mounts at its target, or fails and mounts nothing. -/
theorem mounts_attach : Mounts tools meaningful target (attach device target o arguments) :=
  Mounts.bind (commands_source device o) fun source => (mounts_mountAt source).onHost

end Mounting

end Publication

end VolumeDriver
