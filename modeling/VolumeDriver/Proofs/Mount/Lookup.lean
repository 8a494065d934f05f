import VolumeDriver.Proofs.Mount.Clearing

/-!
# The two lookups of a mount point

A path is looked up in the mount table to tell whether it is free, and to find the device that is mounted there. The first look takes
an entry in the form of a removed directory for a mount of the path, the second does not. So the two agree exactly if no such entry
stands for a path that is not listed as it is (`lookups_agree_iff`).
-/

namespace VolumeDriver

open Files

namespace MountTable

variable {entries : List MountEntry} {p device : Path} {n : Nat}

/-- A path has a mount if it is listed as it is, or as a directory that was removed. -/
theorem any_matchesPath (entries : List MountEntry) (p : Path) : entries.any (·.matchesPath p) =
    (entries.any (·.path.same p) || entries.any (·.path.same (MountEntry.deletedForm p))) := by
  induction entries with
  | nil => rfl
  | cons e entries ih =>
    rw [List.any_cons, List.any_cons, List.any_cons, ih, MountEntry.matchesPath]
    ac_rfl

/-- A device is found for a path exactly if the path is listed as it is. -/
theorem isSome_deviceAt (entries : List MountEntry) (p : Path) : (deviceAt entries p).isSome = entries.any (·.path.same p) := by
  rw [deviceAt, Option.isSome_map, Bool.eq_iff_iff, List.find?_isSome, List.any_eq_true]

/-- The device that is found is that of the first entry at the path, with as many entries as there are of it. -/
theorem deviceAt_eq_some_iff : deviceAt entries p = some (device, n) ↔
    ∃ before e after, entries = before ++ e :: after ∧ (∀ d ∈ before, d.path.same p = false) ∧ e.path.same p = true ∧
      e.device = device ∧ n = entries.countP (·.device.same device) := by
  simp only [deviceAt, Option.map_eq_some_iff, Prod.mk.injEq]
  constructor
  · rintro ⟨e, hfind, rfl, rfl⟩
    obtain ⟨hsame, before, after, hentries, hbefore⟩ := List.find?_eq_some_iff_append.1 hfind
    exact ⟨before, e, after, hentries, by simpa using hbefore, hsame, rfl, rfl⟩
  · rintro ⟨before, e, after, hentries, hbefore, hsame, rfl, rfl⟩
    exact ⟨e, List.find?_eq_some_iff_append.2 ⟨hsame, before, after, hentries, by simpa using hbefore⟩, rfl, rfl⟩

/-- A mount at a path has its device found exactly if the path is listed as it is whenever it is listed as a directory that was
removed. -/
theorem any_matchesPath_iff_isSome : (entries.any (·.matchesPath p) = true ↔ (deviceAt entries p).isSome = true) ↔
    ((∃ e ∈ entries, e.path.same (MountEntry.deletedForm p) = true) → ∃ e ∈ entries, e.path.same p = true) := by
  rw [any_matchesPath, isSome_deviceAt, ← List.any_eq_true, ← List.any_eq_true]
  cases entries.any (·.path.same p) <;> simp

end MountTable

namespace MountPoint

variable {τ : Type} (tools : Toolbox τ) {s : MemoryHost τ} {p : Path} {o : FileObject}

/-- Both looks at a path that is there change nothing. The device that is found is that of the first entry mounted at the path, and the
count is of all entries of that device. The first look sees a mount exactly where the second finds a device, if and only if the path,
should it be listed as a directory that was removed, is also listed as it is. -/
theorem lookups_agree_iff (hstat : s.files.stat p = .ok o) :
    ∃ resolved free found, s.files.canonical p = .ok resolved ∧
      s.perform tools (isFree p) = (.ok free, s) ∧ s.perform tools (deviceAt p) = (.ok found, s) ∧
      (∀ device n, found = some (device, n) ↔
        ∃ before e after, s.entries = before ++ e :: after ∧ (∀ d ∈ before, d.path.same resolved = false) ∧
          e.path.same resolved = true ∧ e.device = device ∧ n = s.entries.countP (·.device.same device)) ∧
      ((free = false ↔ found.isSome = true) ↔
        ((∃ e ∈ s.entries, e.path.same (MountEntry.deletedForm resolved) = true) → ∃ e ∈ s.entries, e.path.same resolved = true)) := by
  obtain ⟨resolved, hcanonical⟩ := canonical_of_stat hstat
  have hfree := perform_isFree tools hstat
  have hfound := s.perform_deviceAt tools p
  rw [s.resolve_of_canonical hcanonical] at hfree hfound
  refine ⟨resolved, _, _, hcanonical, hfree, hfound, fun device n => MountTable.deviceAt_eq_some_iff, ?_⟩
  rw [Bool.not_eq_false', MountTable.any_matchesPath_iff_isSome]

/-- A directory `/t` at which a device is mounted that is also mounted elsewhere. -/
def twiceMountedHost : MemoryHost ToolScript where
  tools := {}
  files := FileTree.put {} ["t"] (.directory 0o755)
  entries := [⟨⟨"/dev/sdb"⟩, ⟨"/s"⟩, "ext4", [], 0, 0⟩, ⟨⟨"/dev/sdb"⟩, ⟨"/t"⟩, "ext4", [], 0, 0⟩]

/-- A device that is mounted twice at `/t`: both lookups see it, and it is counted twice. -/
theorem lookups_agree_twiceMounted : twiceMountedHost.files.stat ⟨"/t"⟩ = .ok (.directory 0o755) ∧
    twiceMountedHost.perform ToolScript.toolbox (deviceAt ⟨"/t"⟩) = (.ok (some (⟨"/dev/sdb"⟩, 2)), twiceMountedHost) ∧
    twiceMountedHost.perform ToolScript.toolbox (isFree ⟨"/t"⟩) = (.ok false, twiceMountedHost) := by
  have hstat : twiceMountedHost.files.stat ⟨"/t"⟩ = .ok (.directory 0o755) := by rfl
  obtain ⟨resolved, free, found, hcanonical, hfree, hfound, hfirst, hagree⟩ := lookups_agree_iff ToolScript.toolbox hstat
  have hresolved : twiceMountedHost.files.canonical ⟨"/t"⟩ = .ok ⟨"/t"⟩ := by rfl
  cases hresolved.symm.trans hcanonical
  obtain rfl : found = some (⟨"/dev/sdb"⟩, 2) :=
    (hfirst _ _).2 ⟨[_], _, [], rfl, by decide +kernel, by decide +kernel, rfl, by decide +kernel⟩
  obtain rfl : free = false := (hagree.2 (by decide +kernel)).2 rfl
  exact ⟨hstat, hfound, hfree⟩

/-- A directory `/t` that was removed while something was mounted there, and made again. -/
def staleHost : MemoryHost ToolScript where
  tools := {}
  files := FileTree.put {} ["t"] (.directory 0o755)
  entries := [⟨⟨"/dev/sdb"⟩, ⟨"/t\\040(deleted)"⟩, "ext4", [], 0, 0⟩]

/-- Something is mounted at `/t`, says the one look; no device is, says the other. So `/t` can neither be withdrawn nor grown. -/
theorem stale_mount_without_device : staleHost.files.stat ⟨"/t"⟩ = .ok (.directory 0o755) ∧
    staleHost.perform ToolScript.toolbox (isFree ⟨"/t"⟩) = (.ok false, staleHost) ∧
    staleHost.perform ToolScript.toolbox (deviceAt ⟨"/t"⟩) = (.ok none, staleHost) ∧
    (staleHost.perform ToolScript.toolbox (Publication.unpublish ⟨"/t"⟩)).1 =
      .error (.mount (.other "failed to unmount path /t")) ∧
    (staleHost.perform ToolScript.toolbox (Publication.grow ⟨"/t"⟩)).1 = .error (.notMounted ⟨"/t"⟩) := by
  refine ⟨by rfl, by rfl, by rfl, by rfl, by rfl⟩

end MountPoint

end VolumeDriver
