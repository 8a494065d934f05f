import VolumeDriver.Host.Memory
import VolumeDriver.Proofs.Mount.Point

/-!
# What a task leaves alone in a host in memory

A task that runs no command leaves the helper tools as they are; one that neither mounts nor unmounts, the mount table.
Clearing a mount point away takes the first entry at its path off the table, unless there is nothing at the path
(`entries_cleanUp`).
-/

namespace VolumeDriver

open Program HostTask

@[simp]
theorem Path.same_self (p : Path) : p.same p = true := by simp [same]

/-- An entry that does not match a path is not at the path. -/
theorem MountEntry.same_of_matchesPath {e : MountEntry} {p : Path} (h : e.matchesPath p = false) : e.path.same p = false :=
  (Bool.or_eq_false_iff.1 h).1

/-! ## The mount table -/

namespace MountTable

/-- What is removed is the first entry at the path. -/
theorem removeFirst_append {before after : List MountEntry} {e : MountEntry} {p : Path} (hbefore : ∀ d ∈ before, d.path.same p = false)
    (hsame : e.path.same p = true) : removeFirst p (before ++ e :: after) = before ++ after := by
  have hnone : ∀ d ∈ before, ¬ d.path.same p = true := by simpa using hbefore
  rw [removeFirst, List.eraseP_append_right _ hnone, List.eraseP_cons_of_pos (p := fun d : MountEntry => d.path.same p) hsame]

/-- Of the entries of a device, one less is left when the entry that it was found by is removed. -/
theorem countOf_removeFirst {entries : List MountEntry} {p device : Path} {n : Nat}
    (h : deviceAt entries p = some (device, n)) : countOf (removeFirst p entries) device + 1 = n := by
  simp only [deviceAt, Option.map_eq_some_iff, Prod.mk.injEq] at h
  obtain ⟨e, hfind, rfl, rfl⟩ := h
  obtain ⟨hsame, before, after, rfl, hbefore⟩ := List.find?_eq_some_iff_append.1 hfind
  -- no entry before the one that is found is at the path
  rw [removeFirst_append (by simpa using hbefore) hsame, countOf, countOf, List.countP_append, List.countP_append, List.countP_cons,
    if_pos e.device.same_self]
  omega

/-- A device is counted if some entry is about it. -/
theorem countOf_pos_iff {entries : List MountEntry} {device : Path} :
    0 < countOf entries device ↔ ∃ e ∈ entries, e.device.same device = true := List.countP_pos_iff

/-- A device that is found has an entry. -/
theorem exists_of_deviceAt {entries : List MountEntry} {p device : Path} {n : Nat}
    (h : deviceAt entries p = some (device, n)) : ∃ e ∈ entries, e.path.same p = true ∧ e.device = device := by
  simp only [deviceAt, Option.map_eq_some_iff, Prod.mk.injEq] at h
  obtain ⟨e, hfind, rfl, rfl⟩ := h
  exact ⟨e, List.mem_of_find?_eq_some hfind, List.find?_some (p := fun d : MountEntry => d.path.same p) hfind, rfl⟩

end MountTable

namespace MemoryHost

variable {τ α β ε : Type} (tools : Toolbox τ)

/-- Runs a task on a host in memory. -/
def perform (t : ExceptT ε (Program host) α) (s : MemoryHost τ) : Except ε α × MemoryHost τ :=
  Program.run (I := host) (answer tools) t.run s

/-- Two tasks in a row: the second is performed on the host that the first leaves, if the first succeeds. -/
theorem perform_bind (t : ExceptT ε (Program host) α) (f : α → ExceptT ε (Program host) β) (s : MemoryHost τ) :
    perform tools (t >>= f) s =
      match perform tools t s with
      | (.ok a, s') => perform tools (f a) s'
      | (.error e, s') => (.error e, s') := by
  unfold perform
  rw [run_except_bind]
  rcases Program.run (I := host) (answer tools) t.run s with ⟨_ | a, s'⟩ <;> rfl

@[simp]
theorem perform_ask (c : HostCall) (s : MemoryHost τ) : perform tools (askHost c) s = answer tools c s := rfl

theorem perform_attempt (t : HostTask α) (s : MemoryHost τ) :
    perform tools t.attempt s = (.ok (perform tools t s).1, (perform tools t s).2) :=
  run_attempt (answer tools) t s

/-- A task leaves the same host as part of a publication, and its error is told as one of mounting. -/
theorem perform_onHost (t : HostTask α) (s : MemoryHost τ) :
    perform tools (Publication.onHost t) s = ((perform tools t s).1.mapError .mount, (perform tools t s).2) :=
  Publication.run_onHost (answer tools) t s

/-- What is asked of the files changes nothing else. -/
theorem of_perform_askFiles {c : Files.FileCall} {a : c.Answer} {s u : MemoryHost τ} (h : perform tools (askFiles c) s = (.ok a, u)) :
    s.files.answer c = (.ok a, u.files) ∧ u = { s with files := u.files } := by
  have hrun : perform tools (askFiles c) s = ((s.files.answer c).1.mapError .io, { s with files := (s.files.answer c).2 }) := rfl
  rw [hrun] at h
  rcases hanswer : s.files.answer c with ⟨e | b, files⟩ <;> rw [hanswer] at h <;> cases h
  exact ⟨rfl, rfl⟩

/-- Of two tasks in a row that succeed, both do. -/
theorem of_perform_bind {t : ExceptT ε (Program host) α} {f : α → ExceptT ε (Program host) β} {s v : MemoryHost τ} {b : β}
    (h : perform tools (t >>= f) s = (.ok b, v)) : ∃ a u, perform tools t s = (.ok a, u) ∧ perform tools (f a) u = (.ok b, v) := by
  rw [perform_bind] at h
  rcases ht : perform tools t s with ⟨e | a, u⟩
  · rw [ht] at h
    cases h
  · rw [ht] at h
    exact ⟨a, u, rfl, h⟩

/-- A task that succeeds as part of a publication succeeds on its own. -/
theorem of_perform_onHost {t : HostTask α} {s u : MemoryHost τ} {a : α} (h : perform tools (Publication.onHost t) s = (.ok a, u)) :
    perform tools t s = (.ok a, u) := by
  rw [perform_onHost] at h
  rcases ht : perform tools t s with ⟨e | b, v⟩
  · rw [ht] at h
    cases h
  · rw [ht] at h
    cases h
    rfl

/-- A task that runs no command leaves the tools as they are. -/
theorem tools_of_quiet {t : ExceptT ε (Program host) α} (ht : Quiet t) (s : MemoryHost τ) :
    (perform tools t s).2.tools = s.tools := by
  refine run_preserves (P := fun u : MemoryHost τ => u.tools = s.tools) ?_ ht rfl
  intro c u hc hu
  cases c with
  | file c => exact hu
  | run c => exact hc.elim
  | mount m =>
    show (u.mount m).2.tools = s.tools
    unfold MemoryHost.mount
    split <;> exact hu
  | unmount p patience =>
    show (u.unmount p).2.tools = s.tools
    unfold MemoryHost.unmount
    dsimp only
    split <;> exact hu
  | entries => exact hu
  | looksUnmounted p => exact hu

/-- A task that neither mounts nor unmounts leaves the mount table as it is. -/
theorem entries_of_keeps {t : ExceptT ε (Program host) α} (ht : Only HostCall.KeepsTable t.run) (s : MemoryHost τ) :
    (perform tools t s).2.entries = s.entries := by
  refine run_preserves (P := fun u : MemoryHost τ => u.entries = s.entries) ?_ ht rfl
  intro c u hc hu
  cases c with
  | file c => exact hu
  | run c => exact hu
  | mount m => exact hc.elim
  | unmount p patience => exact hc.elim
  | entries => exact hu
  | looksUnmounted p => exact hu

/-! ## Clearing a mount point away -/

/-- A path that has a canonical form is resolved to it. -/
theorem resolve_of_canonical {s : MemoryHost τ} {p resolved : Path} (h : s.files.canonical p = .ok resolved) :
    s.resolve p = resolved := by
  rw [resolve, h]

/-- A host after something was unmounted: one mount less, if there was one. -/
def unmounted (s : MemoryHost τ) (p : Path) : MemoryHost τ :=
  { s with entries := MountTable.removeFirst (s.resolve p) s.entries, log := s.log ++ [.unmounted (s.resolve p)] }

@[simp]
theorem files_unmounted (s : MemoryHost τ) (p : Path) : (s.unmounted p).files = s.files := rfl

@[simp]
theorem resolve_unmounted (s : MemoryHost τ) (p : Path) : (s.unmounted p).resolve p = s.resolve p := rfl

/-- An unmount fails and leaves the host as it was, or takes a mount from it. -/
theorem unmount_cases (s : MemoryHost τ) (p : Path) : (∃ e, s.unmount p = (.error e, s)) ∨ s.unmount p = (.ok (), s.unmounted p) := by
  unfold unmount
  dsimp only
  split
  · exact Or.inl ⟨_, rfl⟩
  · exact Or.inr rfl

/-- Where no unmount of the path is to fail, what is mounted there can be unmounted. -/
theorem unmount_of_unhindered {s : MemoryHost τ} {p : Path} (h : ∀ f ∈ s.unmountFailures, f.1.same (s.resolve p) = false) :
    s.unmount p = (.ok (), s.unmounted p) := by
  have hnone : s.unmountFailures.find? (fun f => f.1.same (s.resolve p)) = none := by simpa using h
  unfold unmount
  dsimp only
  rw [hnone, unmounted]

/-- To look for the device at a path is to read the mount table, and leaves the host as it was. -/
theorem perform_deviceAt (p : Path) (s : MemoryHost τ) :
    perform tools (MountPoint.deviceAt p) s = (.ok (MountTable.deviceAt s.entries (s.resolve p)), s) := by
  have hcanonical : perform tools (askFiles (.canonical p)) s = ((s.files.canonical p).mapError .io, s) := rfl
  rw [MountPoint.deviceAt, perform_bind, perform_ask]
  dsimp only [answer]
  rw [perform_bind, perform_attempt, hcanonical, resolve]
  cases s.files.canonical p <;> rfl

/-- The quick look sees what the table lists. -/
theorem looksUnmounted_of_listed {p : Path} {s : MemoryHost τ} {o : Files.FileObject} (hstat : s.files.stat p = .ok o)
    (hlisted : ∃ e ∈ s.entries, e.path.same (s.resolve p) = true) : s.looksUnmounted p = .ok false := by
  have hany : s.entries.any (fun e => e.path.same (s.resolve p)) = true := List.any_eq_true.2 hlisted
  rw [looksUnmounted, hstat]
  simp [hany]

/-- A path that exists and is listed is not free, and to look leaves the host as it was. -/
theorem perform_isFree_of_listed {p : Path} {s : MemoryHost τ} {o : Files.FileObject} (hstat : s.files.stat p = .ok o)
    (hlisted : ∃ e ∈ s.entries, e.path.same (s.resolve p) = true) :
    perform tools (MountPoint.isFree p) s = (.ok false, s) := by
  have hlook : perform tools (askHost (.looksUnmounted p)) s = (.ok false, s) := by
    rw [perform_ask, answer, looksUnmounted_of_listed hstat hlisted]
  rw [MountPoint.isFree, perform_bind, perform_attempt, hlook]
  rfl

/-- What is unmounted is the first entry at the path. -/
theorem entries_unmountAndRemove {thorough : Bool} {p : Path} {s s' : MemoryHost τ}
    (h : perform tools (MountPoint.unmountAndRemove thorough p) s = (.ok (), s')) :
    s'.entries = MountTable.removeFirst (s.resolve p) s.entries := by
  have hrest : Only HostCall.KeepsTable (do
      if ← MountPoint.seemsFree thorough p then MountPoint.remove p
      else throw (.other ("failed to unmount path " ++ p.text)) : HostTask Unit).run := by
    refine Only.except_bind ((MountPoint.settled_seemsFree thorough p).mono fun _ => HostCall.Settled.keepsTable) fun free => ?_
    split
    · exact (MountPoint.settled_remove p).mono fun _ => HostCall.Settled.keepsTable
    · trivial
  rw [MountPoint.unmountAndRemove, perform_bind, perform_ask] at h
  rcases hu : answer tools (.unmount p none) s with ⟨e | _, u⟩
  · rw [hu] at h
    nomatch h
  · rw [hu] at h
    have hentries := entries_of_keeps tools hrest u
    dsimp only at h
    rw [h] at hentries
    rw [hentries]
    have hunmount : s.unmount p = (.ok (), u) := hu
    rcases s.unmount_cases p with ⟨e, hfailed⟩ | hdone
    · cases hunmount.symm.trans hfailed
    · cases hunmount.symm.trans hdone
      rfl

/-- A mount point that is listed is unmounted once, unless there is nothing at its path. -/
theorem entries_cleanUp {p : Path} {s s' : MemoryHost τ} (hlisted : ∃ e ∈ s.entries, e.path.same (s.resolve p) = true)
    (h : perform tools (MountPoint.cleanUp true p) s = (.ok (), s')) :
    (s.files.stat p = .error (.os .noEntry) ∧ s'.entries = s.entries) ∨
      (s.files.stat p ≠ .error (.os .noEntry) ∧ s'.entries = MountTable.removeFirst (s.resolve p) s.entries) := by
  have hask : perform tools (askFiles (.stat p)) s = ((s.files.stat p).mapError .io, s) := rfl
  rw [MountPoint.cleanUp, perform_bind, perform_attempt, hask] at h
  cases hstat : s.files.stat p with
  | ok o =>
    rw [hstat] at h
    dsimp only [mapError_ok, mapError_error] at h
    rw [perform_bind, MountPoint.seemsFree, if_pos rfl, perform_isFree_of_listed tools hstat hlisted] at h
    exact Or.inr ⟨nofun, entries_unmountAndRemove tools h⟩
  | error e =>
    rw [hstat] at h
    dsimp only [mapError_ok, mapError_error] at h
    have hgone : (MountError.io e).isNotFound = true ↔ e = .os .noEntry := by
      simp [MountError.isNotFound, Files.IoError.isNotFound]
    split at h
    · rename_i hfound
      cases h
      exact Or.inl ⟨by rw [hgone.1 hfound], rfl⟩
    · rename_i hfound
      have hthere : (Except.error e : Except Files.IoError Files.FileObject) ≠ .error (.os .noEntry) := by
        intro he
        exact hfound (hgone.2 (Except.error.inj he))
      split at h
      · exact Or.inr ⟨hthere, entries_unmountAndRemove tools h⟩
      · nomatch h

/-- Once the mount point of a device is cleared away, the device is listed exactly if it was listed twice, or if there was nothing
at the path to be unmounted. -/
theorem listed_cleanUp_iff {p device : Path} {n : Nat} {s s' : MemoryHost τ}
    (hfound : MountTable.deviceAt s.entries (s.resolve p) = some (device, n))
    (h : perform tools (MountPoint.cleanUp true p) s = (.ok (), s')) :
    (∃ e ∈ s'.entries, e.device.same device = true) ↔ 2 ≤ n ∨ s.files.stat p = .error (.os .noEntry) := by
  have hlisted := MountTable.exists_of_deviceAt hfound
  rcases entries_cleanUp tools (hlisted.imp fun e he => ⟨he.1, he.2.1⟩) h with ⟨hgone, hentries⟩ | ⟨hthere, hentries⟩
  · obtain ⟨e, he, _, rfl⟩ := hlisted
    rw [hentries]
    exact iff_of_true ⟨e, he, e.device.same_self⟩ (Or.inr hgone)
  · have hcount := MountTable.countOf_removeFirst hfound
    rw [hentries, ← MountTable.countOf_pos_iff, or_iff_left hthere]
    omega

end MemoryHost

end VolumeDriver
