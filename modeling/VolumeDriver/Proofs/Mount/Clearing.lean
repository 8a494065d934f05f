import VolumeDriver.Proofs.Files.Removing
import VolumeDriver.Proofs.Host.Order
import VolumeDriver.Proofs.Publication.Attachment
import VolumeDriver.Proofs.Publication.Failure

/-!
# How a mount point is cleared away

A path that is there is removed if the table has no mount for it, and else unmounted once, looked up again, and removed if it was the
last mount (`perform_cleanUp`, `perform_unmountAndRemove`). So nothing is removed before a look at the table found no mount for it
(`removes_onlyAfter`), a failure leaves the files as they are (`cleanUp_cases`), and mounts on top of each other are cleared away one by
one (`stacked_afterCleanUps`).
-/

namespace VolumeDriver

open Program HostTask Files

/-- A path is removed. -/
def HostCall.Removes : HostCall → Prop
  | .file (.removeDirectory _) | .file (.removeFile _) => True
  | _ => False

/-- The mount table was looked up, and had no mount for a path. -/
def HostExchange.FindsNone (resolved : Path) (x : HostExchange) : Prop :=
  ∃ entries, x = ⟨.entries, .ok entries⟩ ∧ ∀ e ∈ entries, e.matchesPath resolved = false

namespace MountPoint

variable {τ : Type} (tools : Toolbox τ) {s u v : MemoryHost τ} {p : Path} {o : FileObject}

/-! ## The two looks at a mount point, and what is done -/

/-- A path that is there is free exactly if the table has no mount for it. -/
theorem perform_isFree (hstat : s.files.stat p = .ok o) :
    s.perform tools (isFree p) = (.ok !s.entries.any (·.matchesPath (s.resolve p)), s) := by
  obtain ⟨resolved, hcanonical⟩ := canonical_of_stat hstat
  rw [Publication.perform_isFree, lookup, hstat, s.resolve_of_canonical hcanonical]
  dsimp only
  rw [hcanonical]
  rfl

/-- A path that is there is removed, if nothing is mounted at it. -/
theorem perform_cleanUp (hstat : s.files.stat p = .ok o) :
    s.perform tools (cleanUp true p) =
      if s.entries.any (·.matchesPath (s.resolve p)) then s.perform tools (unmountAndRemove true p) else s.perform tools (remove p) := by
  have hask : s.perform tools (askFiles (.stat p)) = ((s.files.stat p).mapError .io, s) := rfl
  rw [cleanUp, MemoryHost.perform_bind, MemoryHost.perform_attempt, hask, hstat]
  dsimp only [mapError_ok]
  rw [MemoryHost.perform_bind, seemsFree, if_pos rfl, perform_isFree tools hstat]
  cases s.entries.any (·.matchesPath (s.resolve p)) <;> rfl

/-- What is unmounted is removed, unless something is still mounted at its path. -/
theorem perform_unmountAndRemove (hstat : s.files.stat p = .ok o) (hunmount : s.unmount p = (.ok (), s.unmounted p)) :
    s.perform tools (unmountAndRemove true p) =
      if (s.unmounted p).entries.any (·.matchesPath (s.resolve p)) then
        (.error (.other ("failed to unmount path " ++ p.text)), s.unmounted p)
      else (s.unmounted p).perform tools (remove p) := by
  have hstat' : (s.unmounted p).files.stat p = .ok o := hstat
  rw [unmountAndRemove, MemoryHost.perform_bind, MemoryHost.perform_ask, MemoryHost.answer, hunmount]
  dsimp only
  rw [MemoryHost.perform_bind, seemsFree, if_pos rfl, perform_isFree tools hstat', s.resolve_unmounted]
  cases (s.unmounted p).entries.any (·.matchesPath (s.resolve p)) <;> rfl

/-- Where the unmount fails, nothing is removed. -/
theorem perform_unmountAndRemove_of_error {e : MountError} (hunmount : s.unmount p = (.error e, u)) :
    s.perform tools (unmountAndRemove true p) = (.error e, u) := by
  rw [unmountAndRemove, MemoryHost.perform_bind, MemoryHost.perform_ask, MemoryHost.answer, hunmount]

/-- A path is removed as what is at it. -/
theorem perform_remove (hstat : s.files.stat p = .ok o) :
    s.perform tools (remove p) =
      match s.files.removeAs o p with
      | .ok files => (.ok (), { s with files := files })
      | .error e => (.error (.io e), s) := by
  have hask : s.perform tools (askFiles (.stat p)) = ((s.files.stat p).mapError .io, s) := rfl
  rw [remove, MemoryHost.perform_bind, MemoryHost.perform_attempt, hask, hstat]
  cases o with
  | directory mode =>
    show s.perform tools (askFiles (.removeDirectory p)) = _
    rw [askFiles, MemoryHost.perform_ask, MemoryHost.answer, FileTree.answer, FileTree.removeAs]
    cases s.files.removeDirectory p <;> rfl
  | file _ | link _ =>
    show s.perform tools (askFiles (.removeFile p)) = _
    rw [askFiles, MemoryHost.perform_ask, MemoryHost.answer, FileTree.answer, FileTree.removeAs]
    cases s.files.removeFile p <;> rfl

/-- To remove a path changes its files alone, or fails and changes nothing. -/
theorem remove_cases (hstat : s.files.stat p = .ok o) :
    (∃ files, s.files.removeAs o p = .ok files ∧ s.perform tools (remove p) = (.ok (), { s with files := files })) ∨
      ∃ e, s.perform tools (remove p) = (.error e, s) := by
  rw [perform_remove tools hstat]
  cases s.files.removeAs o p with
  | ok files => exact Or.inl ⟨files, rfl, rfl⟩
  | error e => exact Or.inr ⟨_, rfl⟩

/-- All that clearing a path away can come to: it is removed when the table has no mount for it, or else the files are left alone. -/
theorem cleanUp_cases (hstat : s.files.stat p = .ok o) :
    (∃ u, s.perform tools (cleanUp true p) = (.ok (), u) ∧ s.files.removeAs o p = .ok u.files ∧
        ∀ e ∈ u.entries, e.matchesPath (s.resolve p) = false) ∨
      ∃ e u, s.perform tools (cleanUp true p) = (.error e, u) ∧ u.files = s.files := by
  -- once the table has no mount for the path, it is removed or not
  have hremove : ∀ u : MemoryHost τ, u.files = s.files → u.entries.any (·.matchesPath (s.resolve p)) = false →
      (∃ v, u.perform tools (remove p) = (.ok (), v) ∧ s.files.removeAs o p = .ok v.files ∧
          ∀ e ∈ v.entries, e.matchesPath (s.resolve p) = false) ∨
        ∃ e v, u.perform tools (remove p) = (.error e, v) ∧ v.files = s.files := by
    intro u hfiles hfree
    rcases remove_cases tools (s := u) (hfiles ▸ hstat) with ⟨files, hremoved, hrun⟩ | ⟨e, hrun⟩
    · exact Or.inl ⟨_, hrun, hfiles ▸ hremoved, by simpa using hfree⟩
    · exact Or.inr ⟨e, u, hrun, hfiles⟩
  rw [perform_cleanUp tools hstat]
  cases hlisted : s.entries.any (·.matchesPath (s.resolve p)) with
  | false => exact hremove s rfl hlisted
  | true =>
    rw [if_pos rfl]
    rcases s.unmount_cases p with ⟨e, hfailed⟩ | hdone
    · exact Or.inr ⟨e, s, perform_unmountAndRemove_of_error tools hfailed, rfl⟩
    · rw [perform_unmountAndRemove tools hstat hdone]
      split
      · exact Or.inr ⟨_, _, rfl, rfl⟩
      · rename_i hfree
        exact hremove (s.unmounted p) rfl (Bool.eq_false_iff.2 hfree)

/-- A path that was cleared away is gone, and nothing is mounted where it was. -/
theorem of_cleanUp_ok (hstat : s.files.stat p = .ok o) (h : s.perform tools (cleanUp true p) = (.ok (), v)) :
    v.files.stat p = .error (.os .noEntry) ∧ ∀ e ∈ v.entries, e.matchesPath (s.resolve p) = false := by
  rcases cleanUp_cases tools hstat with ⟨u, hrun, hremoved, hfree⟩ | ⟨e, u, hrun, _⟩ <;> cases h.symm.trans hrun
  exact ⟨FileTree.stat_removeAs hstat hremoved, hfree⟩

/-- Where clearing a path away fails, no file is touched. -/
theorem files_of_cleanUp_error {e : MountError} (hstat : s.files.stat p = .ok o)
    (h : s.perform tools (cleanUp true p) = (.error e, v)) : v.files = s.files := by
  rcases cleanUp_cases tools hstat with ⟨u, hrun, _⟩ | ⟨e', u, hrun, hfiles⟩ <;> cases h.symm.trans hrun
  exact hfiles

/-! ## Nothing is removed before a look at the table -/

/-- What was found free was looked up in the table. -/
theorem findsNone_of_isFree (hstat : s.files.stat p = .ok o) (hfree : result (MemoryHost.answer tools) (isFree p) s = .ok true) :
    ∃ x ∈ steps (MemoryHost.answer tools) (isFree p) s, x.FindsNone (s.resolve p) := by
  have hnone : ∀ e ∈ s.entries, e.matchesPath (s.resolve p) = false := by
    have hlisted := (congrArg Prod.fst (perform_isFree tools hstat)).symm.trans hfree
    simpa using hlisted
  obtain ⟨resolved, hcanonical⟩ := canonical_of_stat hstat
  have hlook : MemoryHost.answer tools (.looksUnmounted p) s = (.ok true, s) := by
    have hunseen : s.entries.any (fun e => e.path.same (s.resolve p)) = false := by
      simpa using fun e he => MountEntry.same_of_matchesPath (hnone e he)
    rw [MemoryHost.answer, MemoryHost.looksUnmounted, hstat]
    simp [hunseen]
  have hresolve : MemoryHost.answer tools (.file (.canonical p)) s = (.ok resolved, s) := by
    rw [MemoryHost.answer, FileTree.answer, hcanonical]
    rfl
  have hsteps : steps (MemoryHost.answer tools) (isFree p) s =
      [⟨.looksUnmounted p, .ok true⟩, ⟨.file (.canonical p), .ok resolved⟩, ⟨.entries, .ok s.entries⟩] := by
    show _ :: Program.exchanges _ _ (MemoryHost.answer tools (.looksUnmounted p) s).2 = _
    rw [hlook]
    show _ :: _ :: Program.exchanges _ _ (MemoryHost.answer tools (.file (.canonical p)) s).2 = _
    rw [hresolve]
    rfl
  exact ⟨⟨.entries, .ok s.entries⟩, by simp [hsteps], s.entries, rfl, hnone⟩

theorem keeps_ask {c : HostCall} (h : ¬ c.Removes) : Only (I := host) (fun c => ¬ c.Removes) (askHost c).run := only_ask h

/-- To look whether a path is free removes nothing. -/
theorem keeps_isFree (p : Path) : Only (I := host) (fun c => ¬ c.Removes) (isFree p).run := only_isFree id id id

/-- What is done where a path was found free comes after the look that found it so. -/
theorem onlyAfter_isFree (hstat : s.files.stat p = .ok o) {f : Bool → HostTask Unit}
    (htaken : OnlyAfter (HostExchange.FindsNone (s.resolve p)) (·.1.Removes) (steps (MemoryHost.answer tools) (f false) s)) :
    OnlyAfter (HostExchange.FindsNone (s.resolve p)) (·.1.Removes) (steps (MemoryHost.answer tools) (isFree p >>= f) s) := by
  have hlook := of_mem_steps (MemoryHost.answer tools) (keeps_isFree p) s
  have hleft : left (MemoryHost.answer tools) (isFree p) s = s := congrArg Prod.snd (perform_isFree tools hstat)
  rcases bind_cases (MemoryHost.answer tools) (isFree p) f s with ⟨e, _, _, hsteps⟩ | ⟨free, hfree, _, hsteps⟩ <;> rw [hsteps]
  · exact .of_not hlook
  · cases free with
    | true => exact .of_mem hlook (findsNone_of_isFree tools hstat hfree)
    | false =>
      rw [hleft]
      exact .append hlook htaken

/-- A path is removed only after a look at the mount table that found no mount there. -/
theorem onlyAfter_unmountAndRemove (hstat : s.files.stat p = .ok o) :
    OnlyAfter (HostExchange.FindsNone (s.resolve p)) (·.1.Removes) (steps (MemoryHost.answer tools) (unmountAndRemove true p) s) := by
  have hunmount : ∀ x ∈ steps (MemoryHost.answer tools) (askHost (.unmount p none)) s, ¬ x.1.Removes :=
    of_mem_steps (MemoryHost.answer tools) (keeps_ask id) s
  rw [unmountAndRemove]
  rcases bind_cases (MemoryHost.answer tools) (askHost (.unmount p none)) _ s with ⟨e, _, _, hsteps⟩ | ⟨_, hok, _, hsteps⟩ <;>
    rw [hsteps]
  · exact .of_not hunmount
  · refine .append hunmount ?_
    have hleft : left (MemoryHost.answer tools) (askHost (.unmount p none)) s = s.unmounted p := by
      rcases s.unmount_cases p with ⟨e, hfailed⟩ | hdone
      · cases hok.symm.trans (congrArg Prod.fst hfailed)
      · exact congrArg Prod.snd hdone
    rw [hleft, seemsFree, if_pos rfl, ← s.resolve_unmounted p]
    have hmore : steps (MemoryHost.answer tools)
        (throw (.other ("failed to unmount path " ++ p.text)) : HostTask Unit) (s.unmounted p) = [] := rfl
    refine onlyAfter_isFree tools (s := s.unmounted p) hstat (.of_not fun x hx => ?_)
    rw [if_neg Bool.false_ne_true, hmore] at hx
    cases hx

/-- A path is removed only after a look at the table that found no mount for it. -/
theorem removes_onlyAfter (hstat : s.files.stat p = .ok o) :
    OnlyAfter (HostExchange.FindsNone (s.resolve p)) (·.1.Removes) (steps (MemoryHost.answer tools) (cleanUp true p) s) := by
  have hlook : ∀ x ∈ steps (MemoryHost.answer tools) (askFiles (.stat p)).attempt s, ¬ x.1.Removes :=
    of_mem_steps (MemoryHost.answer tools) (only_attempt (keeps_ask id)) s
  have hfound : result (MemoryHost.answer tools) (askFiles (.stat p)).attempt s = .ok (.ok o) := by
    show Except.ok ((s.files.stat p).mapError MountError.io) = _
    rw [hstat]
    rfl
  rw [cleanUp]
  rcases bind_cases (MemoryHost.answer tools) (askFiles (.stat p)).attempt _ s with ⟨e, herror, _, _⟩ | ⟨found, hok, _, hsteps⟩
  · cases hfound.symm.trans herror
  · obtain rfl := Except.ok.inj (hfound.symm.trans hok)
    rw [hsteps]
    refine .append hlook ?_
    have hleft : left (MemoryHost.answer tools) (askFiles (.stat p)).attempt s = s := rfl
    rw [hleft]
    dsimp only
    rw [seemsFree, if_pos rfl]
    exact onlyAfter_isFree tools hstat (onlyAfter_unmountAndRemove tools hstat)

end MountPoint

/-! ## Mounts on top of each other -/

/-- One of the entries at a path is gone, and all others are as they were. -/
def MountTable.OneLess (p : Path) (entries entries' : List MountEntry) : Prop :=
  ∃ before e after, entries = before ++ e :: after ∧ e.path.same p = true ∧ entries' = before ++ after

namespace MountTable

variable {entries entries' : List MountEntry} {p : Path}

/-- To remove the first entry at a path leaves one entry less there. -/
theorem oneLess_removeFirst (h : ∃ e ∈ entries, e.path.same p = true) : OneLess p entries (removeFirst p entries) := by
  obtain ⟨e, he, hsame⟩ := h
  obtain ⟨e, before, after, _, hsame, hentries, hremoved⟩ := List.exists_of_eraseP (p := fun e : MountEntry => e.path.same p) he hsame
  exact ⟨before, e, after, hentries, hsame, hremoved⟩

/-- There is one entry at the path less than before. -/
theorem OneLess.count (h : OneLess p entries entries') :
    entries.countP (·.path.same p) = entries'.countP (·.path.same p) + 1 := by
  obtain ⟨before, e, after, rfl, hsame, rfl⟩ := h
  simp only [List.countP_append, List.countP_cons, hsame, if_pos]
  omega

/-- No entry is there that was not there before. -/
theorem OneLess.mem (h : OneLess p entries entries') {e : MountEntry} (he : e ∈ entries') : e ∈ entries := by
  obtain ⟨before, d, after, rfl, _, rfl⟩ := h
  rcases List.mem_append.1 he with he | he
  · exact List.mem_append_left _ he
  · exact List.mem_append_right _ (List.mem_cons_of_mem d he)

end MountTable

/-- There are `k` mounts at a path that is canonical, and all of them can be unmounted. -/
structure MemoryHost.Stacked {τ : Type} (p : Path) (k : Nat) (s : MemoryHost τ) : Prop where
  canonical : s.files.canonical p = .ok p
  count : s.entries.countP (·.path.same p) = k
  kept : ∀ e ∈ s.entries, e.path.same (MountEntry.deletedForm p) = false
  unmounts : ∀ f ∈ s.unmountFailures, f.1.same p = false

namespace MemoryHost.Stacked

variable {τ : Type} {s : MemoryHost τ} {p : Path} {k : Nat}

/-- A path under a stack of mounts is its own canonical form. -/
theorem resolve_eq (h : Stacked p k s) : s.resolve p = p := resolve_of_canonical h.canonical

/-- A stack of mounts can be unmounted. -/
theorem unmount_eq (h : Stacked p k s) : s.unmount p = (.ok (), s.unmounted p) :=
  unmount_of_unhindered fun f hf => h.resolve_eq.symm ▸ h.unmounts f hf

/-- Something is mounted at the path exactly if it is listed there. -/
theorem any_matchesPath (h : Stacked p k s) : s.entries.any (·.matchesPath p) = decide (0 < k) := by
  rw [← h.count, Bool.eq_iff_iff, List.any_eq_true, decide_eq_true_iff, List.countP_pos_iff]
  refine exists_congr fun e => and_congr_right fun he => ?_
  rw [MountEntry.matchesPath, h.kept e he, Bool.or_false]

/-- An unmount takes one mount from a stack. -/
theorem oneLess (h : Stacked p (k + 1) s) : MountTable.OneLess p s.entries (s.unmounted p).entries := by
  show MountTable.OneLess p s.entries (MountTable.removeFirst (s.resolve p) s.entries)
  rw [h.resolve_eq]
  refine MountTable.oneLess_removeFirst (List.countP_pos_iff.1 ?_)
  rw [h.count]
  exact Nat.succ_pos k

/-- A stack of mounts is one lower after an unmount. -/
theorem unmounted (h : Stacked p (k + 1) s) : Stacked p k (s.unmounted p) where
  canonical := h.canonical
  count := Nat.succ.inj (h.oneLess.count.symm.trans h.count)
  kept e he := h.kept e (h.oneLess.mem he)
  unmounts := h.unmounts

end MemoryHost.Stacked

/-- A host after a path was to be cleared away a number of times. -/
def MemoryHost.afterCleanUps {τ : Type} (tools : Toolbox τ) (p : Path) (s : MemoryHost τ) : Nat → MemoryHost τ
  | 0 => s
  | i + 1 => ((s.afterCleanUps tools p i).perform tools (MountPoint.cleanUp true p)).2

namespace MountPoint

open MemoryHost

variable {τ : Type} (tools : Toolbox τ) {s : MemoryHost τ} {p : Path} {o : FileObject} {k : Nat}

/-- Of several mounts on top of each other one is taken away, and that is a failure. -/
theorem perform_cleanUp_of_more (hstat : s.files.stat p = .ok o) (h : Stacked p (k + 2) s) :
    s.perform tools (cleanUp true p) = (.error (.other ("failed to unmount path " ++ p.text)), s.unmounted p) := by
  rw [perform_cleanUp tools hstat, h.resolve_eq, h.any_matchesPath, decide_eq_true (Nat.succ_pos _), if_pos rfl,
    perform_unmountAndRemove tools hstat h.unmount_eq, h.resolve_eq, h.unmounted.any_matchesPath,
    decide_eq_true (Nat.succ_pos _), if_pos rfl]

/-- The last mount is taken away, and then what it was mounted at. -/
theorem perform_cleanUp_of_last (hstat : s.files.stat p = .ok o) (h : Stacked p 1 s) :
    s.perform tools (cleanUp true p) = (s.unmounted p).perform tools (remove p) := by
  rw [perform_cleanUp tools hstat, h.resolve_eq, h.any_matchesPath, decide_eq_true Nat.one_pos, if_pos rfl,
    perform_unmountAndRemove tools hstat h.unmount_eq, h.resolve_eq, h.unmounted.any_matchesPath, if_neg (by decide)]

/-- As long as a mount is left, all that was done is to take away one mount at each call. -/
theorem stacked_afterCleanUps (hstat : s.files.stat p = .ok o) {i n : Nat} (h : Stacked p (i + n + 1) s) :
    Stacked p (n + 1) (s.afterCleanUps tools p i) ∧ (s.afterCleanUps tools p i).files = s.files := by
  induction i generalizing n with
  | zero => exact ⟨by rwa [Nat.zero_add] at h, rfl⟩
  | succ i ih =>
    obtain ⟨hstacked, hfiles⟩ := ih (n := n + 1) (by simpa [Nat.add_right_comm, Nat.add_assoc] using h)
    rw [afterCleanUps, perform_cleanUp_of_more tools (hfiles ▸ hstat) hstacked]
    exact ⟨hstacked.unmounted, hfiles⟩

/-- As long as more than one mount is left, a call fails, and takes one mount away. -/
theorem afterCleanUps_of_more (hstat : s.files.stat p = .ok o) {i n : Nat} (h : Stacked p (i + n + 2) s) :
    ((s.afterCleanUps tools p i).perform tools (cleanUp true p)).1 = .error (.other ("failed to unmount path " ++ p.text)) ∧
      MountTable.OneLess p (s.afterCleanUps tools p i).entries (s.afterCleanUps tools p (i + 1)).entries ∧
      (s.afterCleanUps tools p (i + 1)).files = s.files := by
  obtain ⟨hstacked, hfiles⟩ := stacked_afterCleanUps tools hstat (i := i) (n := n + 1) h
  rw [afterCleanUps, perform_cleanUp_of_more tools (hfiles ▸ hstat) hstacked]
  exact ⟨rfl, hstacked.oneLess, hfiles⟩

/-- The call that takes the last mount away succeeds, if what is left can be removed. -/
theorem afterCleanUps_of_last {i : Nat} (hbare : s.files.Bare p o) (hroot : s.files.hasBelow [] = true) (h : Stacked p (i + 1) s) :
    ((s.afterCleanUps tools p i).perform tools (cleanUp true p)).1 = .ok () := by
  obtain ⟨hstacked, hfiles⟩ := stacked_afterCleanUps tools hbare.stat_eq (i := i) (n := 0) h
  have hstat : (s.afterCleanUps tools p i).files.stat p = .ok o := hfiles ▸ hbare.stat_eq
  obtain ⟨files, hremoved⟩ := hbare.removeAs_ok h.canonical hroot
  have hremoved' : ((s.afterCleanUps tools p i).unmounted p).files.removeAs o p = .ok files := by
    rw [files_unmounted, hfiles, hremoved]
  rw [perform_cleanUp_of_last tools hstat hstacked, perform_remove tools (s := (s.afterCleanUps tools p i).unmounted p) hstat, hremoved']

/-- Where a path that is there is cleared away: after a success it is gone, with every mount of the path that it resolved to; nothing
is removed before a look at the table that found no such mount; if the unmount fails, or a mount is left, the call fails and no file is
touched; and where a file or an empty directory has `k + 1` mounts on top of each other, each call takes one of them away, `k` calls
fail and the next succeeds. The root cannot be removed, but no system has it empty. -/
theorem cleanUp_peels (hstat : s.files.stat p = .ok o) :
    ∃ resolved, s.files.canonical p = .ok resolved ∧
      (∀ u, s.perform tools (cleanUp true p) = (.ok (), u) →
        u.files.stat p = .error (.os .noEntry) ∧ ∀ e ∈ u.entries, e.matchesPath resolved = false) ∧
      OnlyAfter (HostExchange.FindsNone resolved) (·.1.Removes) (steps (MemoryHost.answer tools) (cleanUp true p) s) ∧
      ((∃ e, ⟨.unmount p none, .error e⟩ ∈ steps (MemoryHost.answer tools) (cleanUp true p) s) ∨
          (∃ e ∈ (s.perform tools (cleanUp true p)).2.entries, e.matchesPath resolved = true) →
        ∃ e u, s.perform tools (cleanUp true p) = (.error e, u) ∧ u.files = s.files) ∧
      ∀ k, Stacked p (k + 1) s → s.files.Bare p o →
        (∀ i < k,
          ((s.afterCleanUps tools p i).perform tools (cleanUp true p)).1 = .error (.other ("failed to unmount path " ++ p.text)) ∧
            MountTable.OneLess p (s.afterCleanUps tools p i).entries (s.afterCleanUps tools p (i + 1)).entries ∧
            (s.afterCleanUps tools p (i + 1)).files = s.files) ∧
          (s.files.hasBelow [] = true → ((s.afterCleanUps tools p k).perform tools (cleanUp true p)).1 = .ok ()) := by
  obtain ⟨resolved, hcanonical⟩ := canonical_of_stat hstat
  refine ⟨resolved, hcanonical, ?_⟩
  rw [← resolve_of_canonical hcanonical]
  refine ⟨fun u => of_cleanUp_ok tools hstat, removes_onlyAfter tools hstat, fun hleft => ?failed,
    fun k hstacked hbare => ⟨?more, ?last⟩⟩
  case failed =>
    rcases hrun : s.perform tools (cleanUp true p) with ⟨e | _, u⟩
    · exact ⟨e, u, rfl, files_of_cleanUp_error tools hstat hrun⟩
    · rcases hleft with ⟨e, hstep⟩ | ⟨e, he, hmatches⟩
      · obtain ⟨e', herror⟩ := (stops_cleanUp true p).fails s ⟨_, hstep, trivial⟩
        cases (congrArg Prod.fst hrun).symm.trans herror
      · rw [hrun] at he
        rw [(of_cleanUp_ok tools hstat hrun).2 e he] at hmatches
        cases hmatches
  case more =>
    intro i hi
    obtain ⟨n, rfl⟩ := Nat.exists_eq_add_of_lt hi
    exact afterCleanUps_of_more tools hstat hstacked
  case last =>
    intro hroot
    exact afterCleanUps_of_last tools hbare hroot hstacked

/-- An empty directory `/t` with two mounts on top of each other. -/
def stackedHost : MemoryHost ToolScript where
  tools := {}
  files := FileTree.put {} ["t"] (.directory 0o755)
  entries := [⟨⟨"/dev/sdb"⟩, ⟨"/t"⟩, "ext4", [], 0, 0⟩, ⟨⟨"/dev/sdc"⟩, ⟨"/t"⟩, "ext4", [], 0, 0⟩]

/-- The first call fails, the second succeeds, and then `/t` is gone. -/
theorem cleanUp_peels_two :
    let call i := (stackedHost.afterCleanUps ToolScript.toolbox ⟨"/t"⟩ i).perform ToolScript.toolbox (cleanUp true ⟨"/t"⟩)
    stackedHost.files.stat ⟨"/t"⟩ = .ok (.directory 0o755) ∧ (call 0).1 = .error (.other "failed to unmount path /t") ∧
      (call 1).1 = .ok () := by
  have hstat : stackedHost.files.stat ⟨"/t"⟩ = .ok (.directory 0o755) := by rfl
  have hstacked : Stacked ⟨"/t"⟩ 2 stackedHost := ⟨by rfl, by decide +kernel, by decide +kernel, nofun⟩
  have hbare : stackedHost.files.Bare ⟨"/t"⟩ (.directory 0o755) := .directory ["t"] 0o755 (by rfl) (by rfl) (by rfl)
  obtain ⟨_, _, _, _, _, hpeels⟩ := cleanUp_peels ToolScript.toolbox hstat
  obtain ⟨hfails, hlast⟩ := hpeels 1 hstacked hbare
  have hroot : stackedHost.files.hasBelow [] = true := by rfl
  exact ⟨hstat, (hfails 0 Nat.one_pos).1, hlast hroot⟩

end MountPoint

end VolumeDriver
