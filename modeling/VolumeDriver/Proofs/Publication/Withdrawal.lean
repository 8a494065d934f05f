import VolumeDriver.Proofs.Encryption

/-!
# What withdrawing a target does to mappings

A target is withdrawn in two steps: it is cleared away, and then the mapping of the device that was listed for it at first is
closed. Two things follow. Whether the mapping is closed does not depend on what else the mount table lists of it
(`closes_while_mounted_iff`). And an attempt that fails between the two steps leaves a mapping that no later attempt finds
(`active_after_withdrawals_iff`).
-/

namespace VolumeDriver

open HostTask

/-- The mapping of the device that the mount table lists for a target. -/
def MemoryHost.mappingAt {τ : Type} (s : MemoryHost τ) (target : Path) : Option String :=
  (MountTable.deviceAt s.entries (s.resolve target)).bind fun (device, _) => Encryption.mappingName device

namespace Publication

variable {τ : Type} (tools : Toolbox τ)

/-! ## One attempt -/

/-- To withdraw is to clear the target away, and then to close the mapping of the device that was found there. -/
theorem perform_unpublish (target : Path) (s : MemoryHost τ) :
    s.perform tools (unpublish target) =
      match s.perform tools (MountPoint.cleanUp true target) with
      | (.error e, u) => (.error (.mount e), u)
      | (.ok _, u) =>
        match s.mappingAt target with
        | none => (.ok (), u)
        | some name => u.perform tools (onHost (Encryption.closeMapping name)) := by
  rw [unpublish, MemoryHost.perform_bind, MemoryHost.perform_onHost, MemoryHost.perform_deviceAt]
  dsimp only [mapError_ok]
  rw [MemoryHost.perform_bind, MemoryHost.perform_onHost]
  rcases s.perform tools (MountPoint.cleanUp true target) with ⟨_ | _, u⟩
  · rfl
  · dsimp only [mapError_ok, MemoryHost.mappingAt]
    split <;> rename_i hname <;> rw [hname]
    rfl

/-- Withdrawing runs commands only after the target was cleared away: those that close the mapping. -/
theorem commands_unpublish (target : Path) (s : MemoryHost τ) :
    commands (MemoryHost.answer tools) (unpublish target) s =
      match s.perform tools (MountPoint.cleanUp true target) with
      | (.error _, _) => []
      | (.ok _, u) =>
        match s.mappingAt target with
        | none => []
        | some name => commands (MemoryHost.answer tools) (Encryption.closeMapping name) u := by
  have hlookup : s.perform tools (onHost (MountPoint.deviceAt target)) =
      (.ok (MountTable.deviceAt s.entries (s.resolve target)), s) := by
    rw [MemoryHost.perform_onHost, MemoryHost.perform_deviceAt]
    rfl
  have hclear := MemoryHost.perform_onHost tools (MountPoint.cleanUp true target) s
  -- neither the lookup nor clearing away runs a command
  rw [unpublish, commands_bind, commands_onHost, (Quiet.of_settled (MountPoint.settled_deviceAt target)).commands,
    List.nil_append, ← MemoryHost.perform, hlookup]
  dsimp only
  rw [commands_bind, commands_onHost, (MountPoint.quiet_cleanUp true target).commands, List.nil_append,
    ← MemoryHost.perform, hclear]
  rcases s.perform tools (MountPoint.cleanUp true target) with ⟨_ | _, u⟩
  · rfl
  · dsimp only [mapError_ok, MemoryHost.mappingAt]
    split <;> rename_i hname <;> rw [hname]
    · exact commands_onHost _ _ _
    · rfl

/-! ## Tools that keep mappings -/

/-- Mappings as the encryption program keeps them. Any command may fail, and then does nothing. To a probe every device is
blank. -/
structure MappingTools where
  active : List String := []
  /-- Which of the commands to come fail, in order. Those after them do not. -/
  failures : List Bool := []
  deriving DecidableEq

namespace MappingTools

/-- What a command that does not fail does. -/
def act (c : Command) (t : MappingTools) : CommandOutput × MappingTools :=
  match c.args with
  | ["status", name] => (⟨some (if name ∈ t.active then 0 else Encryption.inactive), ""⟩, t)
  | ["luksOpen", _, _, name] => (.success "", { t with active := name :: t.active })
  | ["luksClose", name] =>
    if name ∈ t.active then (.success "", { t with active := t.active.filter (· ≠ name) })
    else (⟨some Encryption.inactive, ""⟩, t)
  | _ => (if c.program = "blkid" then ⟨some Disk.nothingFound, ""⟩ else .success "", t)

theorem act_status (name : String) (t : MappingTools) :
    act (Encryption.statusCommand name) t = (⟨some (if name ∈ t.active then 0 else Encryption.inactive), ""⟩, t) := rfl

theorem act_close (name : String) (t : MappingTools) :
    act (Encryption.closeCommand name) t =
      if name ∈ t.active then (.success "", { t with active := t.active.filter (· ≠ name) })
      else (⟨some Encryption.inactive, ""⟩, t) := rfl

/-- The code of a command that fails. -/
def busy : Int := 5

def toolbox : Toolbox MappingTools where
  run c t :=
    let rest : MappingTools := { t with failures := t.failures.tail }
    if t.failures.head? = some true then (⟨some busy, ""⟩, rest) else act c rest

end MappingTools

/-! ## Shared devices -/

/-- The mapping of the device at a target is closed while the device is listed elsewhere exactly if there is such another
mount, the target can be cleared away and the mapping is said to be active. How many mounts there are is not asked for.
(Nothing is unmounted at a target that is gone from the files, so it counts as elsewhere itself.) -/
theorem closes_while_mounted_iff {s : MemoryHost τ} {target device : Path} {n : Nat} {name : String}
    (hfound : MountTable.deviceAt s.entries (s.resolve target) = some (device, n))
    (hname : Encryption.mappingName device = some name) :
    ((∃ answer, (Encryption.closeCommand name, answer) ∈ commands (MemoryHost.answer tools) (unpublish target) s) ∧
        ∃ e ∈ (s.perform tools (unpublish target)).2.entries, e.device.same device = true) ↔
      (2 ≤ n ∨ s.files.stat target = .error (.os .noEntry)) ∧
        (s.perform tools (MountPoint.cleanUp true target)).1 = .ok () ∧
        (tools.run (Encryption.statusCommand name) s.tools).1.code = some 0 := by
  have hmapping : s.mappingAt target = some name := by
    rw [MemoryHost.mappingAt, hfound]
    exact hname
  have htools := MemoryHost.tools_of_quiet tools (MountPoint.quiet_cleanUp true target) s
  rw [commands_unpublish, perform_unpublish]
  rcases hrun : s.perform tools (MountPoint.cleanUp true target) with ⟨e | _, u⟩
  · simp
  · rw [hrun] at htools
    dsimp only at htools ⊢
    rw [hmapping]
    dsimp only
    have hkept := MemoryHost.entries_of_keeps tools (only_onHost (Encryption.keepsTable_closeMapping name)) u
    rw [Encryption.closes_iff, hkept, MemoryHost.listed_cleanUp_iff tools hfound hrun, htools]
    simp [and_comm]

/-- The directories `/a` and `/b`, and an encrypted device mounted at both. -/
def sharedHost : MemoryHost MappingTools where
  tools := { active := ["sdb"] }
  files := (Files.FileTree.put {} ["a"] (.directory 0o750)).put ["b"] (.directory 0o750)
  entries := [⟨⟨"/dev/mapper/sdb"⟩, ⟨"/a"⟩, "ext4", [], 0, 0⟩, ⟨⟨"/dev/mapper/sdb"⟩, ⟨"/b"⟩, "ext4", [], 0, 0⟩]

/-- The device that is mounted twice: its mapping is closed while the other mount is listed. -/
theorem closes_while_mounted_twice :
    (MountTable.deviceAt sharedHost.entries (sharedHost.resolve ⟨"/a"⟩) = some (⟨"/dev/mapper/sdb"⟩, 2) ∧
        Encryption.mappingName ⟨"/dev/mapper/sdb"⟩ = some "sdb") ∧
      (((∃ answer, (Encryption.closeCommand "sdb", answer) ∈
            commands (MemoryHost.answer MappingTools.toolbox) (unpublish ⟨"/a"⟩) sharedHost) ∧
          ∃ e ∈ (sharedHost.perform MappingTools.toolbox (unpublish ⟨"/a"⟩)).2.entries,
            e.device.same ⟨"/dev/mapper/sdb"⟩ = true) ↔
        (2 ≤ 2 ∨ sharedHost.files.stat ⟨"/a"⟩ = .error (.os .noEntry)) ∧
          (sharedHost.perform MappingTools.toolbox (MountPoint.cleanUp true ⟨"/a"⟩)).1 = .ok () ∧
          (MappingTools.toolbox.run (Encryption.statusCommand "sdb") sharedHost.tools).1.code = some 0) :=
  ⟨⟨by decide +kernel, by decide +kernel⟩,
    closes_while_mounted_iff MappingTools.toolbox (by decide +kernel) (by decide +kernel)⟩

/-- Withdrawing `/a` closes the mapping that `/b` needs. -/
theorem shared_mapping_closed :
    (sharedHost.perform MappingTools.toolbox (unpublish ⟨"/a"⟩)).1.isOk = true ∧
      (sharedHost.perform MappingTools.toolbox (unpublish ⟨"/a"⟩)).2.entries =
        [⟨⟨"/dev/mapper/sdb"⟩, ⟨"/b"⟩, "ext4", [], 0, 0⟩] ∧
      (commands (MemoryHost.answer MappingTools.toolbox) (unpublish ⟨"/a"⟩) sharedHost).map (·.1) =
        [Encryption.statusCommand "sdb", Encryption.closeCommand "sdb"] := by
  decide +kernel

/-! ## Attempts -/

/-- The tools keep mappings as the encryption program does. A command that fails changes none. -/
structure KeepsMappings (active : τ → String → Prop) : Prop where
  /-- Only of a mapping that is not active does its status say so. -/
  inactive_of_status : ∀ t name,
    (tools.run (Encryption.statusCommand name) t).1.code = some Encryption.inactive → ¬ active t name
  status : ∀ t name other, active (tools.run (Encryption.statusCommand name) t).2 other ↔ active t other
  closed : ∀ t name, (tools.run (Encryption.closeCommand name) t).1.code = some 0 →
    ∀ other, active (tools.run (Encryption.closeCommand name) t).2 other ↔ active t other ∧ other ≠ name
  failed : ∀ t name, (tools.run (Encryption.closeCommand name) t).1.code ≠ some 0 →
    ∀ other, active (tools.run (Encryption.closeCommand name) t).2 other ↔ active t other

/-- An attempt to withdraw a target. -/
structure Attempt where
  /-- The mapping of the device that was listed for the target at first. -/
  mapping : Option String
  succeeded : Bool
  deriving DecidableEq, Repr

/-- Attempts to withdraw a target, one after the other. For each there are paths that cannot be unmounted. -/
def withdrawals (target : Path) : List (List (Path × Files.IoError)) → MemoryHost τ → List Attempt × MemoryHost τ
  | [], s => ([], s)
  | failures :: rest, s =>
    let s := { s with unmountFailures := failures }
    let (result, u) := s.perform tools (unpublish target)
    let (attempts, v) := withdrawals target rest u
    (⟨s.mappingAt target, result.isOk⟩ :: attempts, v)

variable {tools}

/-- Closing a mapping closes it or fails, and leaves the others. -/
theorem active_closeMapping_iff {active : τ → String → Prop} (h : KeepsMappings tools active) (name other : String)
    (s : MemoryHost τ) :
    active (s.perform tools (Encryption.closeMapping name)).2.tools other ↔
      active s.tools other ∧ ¬ (name = other ∧ (s.perform tools (Encryption.closeMapping name)).1 = .ok ()) := by
  rcases hstatus : tools.run (Encryption.statusCommand name) s.tools with ⟨o, t⟩
  rcases hclose : tools.run (Encryption.closeCommand name) t with ⟨o', t'⟩
  have hkept := h.status s.tools name
  have hinactive := h.inactive_of_status s.tools name
  have hclosed := h.closed t name
  have hfailed := h.failed t name
  rw [hstatus] at hkept hinactive
  rw [hclose] at hclosed hfailed
  dsimp only at hkept hinactive hclosed hfailed
  rcases Encryption.closeMapping_cases tools name s hstatus hclose with
    ⟨_, _, htools, hresult⟩ | ⟨_, _, htools, hresult⟩
  · rw [htools, hresult]
    by_cases hzero : o'.code = some 0
    · rw [hclosed hzero, hkept]
      simp [hzero, eq_comm]
    · rw [hfailed hzero, hkept]
      simp [hzero]
  · rw [htools, hresult, hkept]
    refine ⟨fun hactive => ⟨hactive, ?_⟩, And.left⟩
    rintro ⟨rfl, hfour⟩
    exact hinactive hfour hactive

/-- An attempt closes the mapping that it found, or fails. -/
theorem active_unpublish_iff {active : τ → String → Prop} (h : KeepsMappings tools active) (target : Path) (name : String)
    (s : MemoryHost τ) :
    active (s.perform tools (unpublish target)).2.tools name ↔
      active s.tools name ∧ ¬ (s.mappingAt target = some name ∧ (s.perform tools (unpublish target)).1 = .ok ()) := by
  rw [perform_unpublish, ← MemoryHost.tools_of_quiet tools (MountPoint.quiet_cleanUp true target) s]
  rcases s.perform tools (MountPoint.cleanUp true target) with ⟨e | _, u⟩
  · simp
  · cases s.mappingAt target with
    | none => simp
    | some found =>
      dsimp only
      rw [MemoryHost.perform_onHost, active_closeMapping_iff h found name u]
      rcases u.perform tools (Encryption.closeMapping found) with ⟨_ | _, v⟩ <;> simp

/-- After any attempts a mapping is active exactly if it was before and no attempt that still found its device listed for the
target succeeded. An attempt that found nothing listed may succeed, and closes nothing. -/
theorem active_after_withdrawals_iff {active : τ → String → Prop} (h : KeepsMappings tools active) (target : Path)
    (name : String) (plans : List (List (Path × Files.IoError))) (s : MemoryHost τ) :
    active (withdrawals tools target plans s).2.tools name ↔
      active s.tools name ∧ ⟨some name, true⟩ ∉ (withdrawals tools target plans s).1 := by
  induction plans generalizing s with
  | nil => simp [withdrawals]
  | cons failures rest ih =>
    have hattempt := active_unpublish_iff h target name { s with unmountFailures := failures }
    have hok : ∀ r : Except PublishError Unit, r.isOk = true ↔ r = .ok () := by
      rintro (_ | _) <;> simp [Except.isOk, Except.toBool]
    rw [withdrawals]
    dsimp only
    rw [ih, hattempt, List.mem_cons, not_or, and_assoc, ← hok, Attempt.mk.injEq]
    simp only [eq_comm]

/-- The tools keep mappings as the encryption program does. -/
theorem MappingTools.keepsMappings : KeepsMappings toolbox fun t name => name ∈ t.active where
  inactive_of_status t name := by
    dsimp only [toolbox]
    split
    · simp [busy, Encryption.inactive]
    · simp [act_status, Encryption.inactive]
  status t name other := by
    dsimp only [toolbox]
    split <;> rfl
  closed t name := by
    dsimp only [toolbox]
    split
    · simp [busy]
    · rw [act_close]
      split <;> simp [CommandOutput.success, Encryption.inactive]
  failed t name := by
    dsimp only [toolbox]
    split
    · simp
    · rw [act_close]
      split <;> simp [CommandOutput.success]

/-- A blank device, published encrypted at `/t`. Of the commands after that, these fail. -/
def publishedHost (failures : List Bool) : MemoryHost MappingTools :=
  let s : MemoryHost MappingTools :=
    (MemoryHost.perform MappingTools.toolbox (publish ⟨"/dev/sdb"⟩ ⟨"/t"⟩ { passphrase := some "secret" }) { tools := {} }).2
  { s with tools := { s.tools with failures := failures } }

/-- A published mapping after two withdrawals: it is inactive exactly if one of them found it and succeeded. -/
theorem active_after_withdrawals_of_published :
    KeepsMappings MappingTools.toolbox (fun t name => name ∈ t.active) ∧
      ("sdb" ∈ (withdrawals MappingTools.toolbox ⟨"/t"⟩ [[], []] (publishedHost [])).2.tools.active ↔
        "sdb" ∈ (publishedHost []).tools.active ∧
          ⟨some "sdb", true⟩ ∉ (withdrawals MappingTools.toolbox ⟨"/t"⟩ [[], []] (publishedHost [])).1) :=
  ⟨MappingTools.keepsMappings,
    active_after_withdrawals_iff MappingTools.keepsMappings ⟨"/t"⟩ "sdb" [[], []] (publishedHost [])⟩

/-- The first attempt clears the target away and fails to close the mapping; the second finds nothing, succeeds, and leaves
the mapping active. -/
theorem mapping_left_active :
    MountTable.deviceAt (publishedHost [false, true]).entries ((publishedHost [false, true]).resolve ⟨"/t"⟩) =
        some (⟨"/dev/mapper/sdb"⟩, 1) ∧
      (publishedHost [false, true]).tools.active = ["sdb"] ∧
      (withdrawals MappingTools.toolbox ⟨"/t"⟩ [[], []] (publishedHost [false, true])).1 =
        [⟨some "sdb", false⟩, ⟨none, true⟩] ∧
      (withdrawals MappingTools.toolbox ⟨"/t"⟩ [[], []] (publishedHost [false, true])).2.tools.active = ["sdb"] := by
  decide +kernel

end Publication

end VolumeDriver
