import VolumeDriver.Proofs.Host.Memory

/-!
# A host without its log

What a task does on a host in memory does not depend on what the host was made to do before. A scene is a host without its log,
and a task has the same outcome on it (`outcome_scene`). A task that runs no command has the same outcome whatever the tools are
(`Scene.outcome_of_quiet`).
-/

namespace VolumeDriver

open Program HostTask Files

structure Scene (τ : Type) where
  tools : τ
  files : FileTree
  entries : List MountEntry
  unmountFailures : List (Path × IoError)

variable {τ υ α β ε : Type}

def MemoryHost.scene (s : MemoryHost τ) : Scene τ := ⟨s.tools, s.files, s.entries, s.unmountFailures⟩

namespace Scene

/-- A host that was made to do nothing yet. -/
def host (s : Scene τ) : MemoryHost τ where
  tools := s.tools
  files := s.files
  entries := s.entries
  unmountFailures := s.unmountFailures

/-- The same scene with other tools. -/
def withTools (s : Scene τ) (t : υ) : Scene υ := ⟨t, s.files, s.entries, s.unmountFailures⟩

/-- Answers a call as a host does. -/
def answer (tools : Toolbox τ) (c : HostCall) (s : Scene τ) : Except MountError c.Answer × Scene τ :=
  ((s.host.answer tools c).1, (s.host.answer tools c).2.scene)

/-- How a task ends on a scene. -/
def outcome (tools : Toolbox τ) (t : ExceptT ε (Program VolumeDriver.host) α) (s : Scene τ) : Except ε α × Scene τ :=
  Program.run (I := VolumeDriver.host) (answer tools) t.run s

end Scene

/-- What a call is answered and does, but for the log, does not depend on the log. -/
theorem MemoryHost.answer_scene (tools : Toolbox τ) (c : HostCall) (s : MemoryHost τ) :
    Scene.answer tools c s.scene = ((s.answer tools c).1, (s.answer tools c).2.scene) := by
  cases c with
  | mount m =>
    obtain ⟨source, target, fsType, options, sensitive⟩ := m
    cases source <;> rfl
  | unmount p patience =>
    show ((s.scene.host.unmount p).1, (s.scene.host.unmount p).2.scene) = ((s.unmount p).1, (s.unmount p).2.scene)
    have hresolve : s.scene.host.resolve p = s.resolve p := rfl
    have hfailures : s.scene.host.unmountFailures = s.unmountFailures := rfl
    unfold MemoryHost.unmount
    dsimp only
    rw [hresolve, hfailures]
    split <;> rfl
  | _ => rfl

/-- A task ends on the scene of a host as it does on the host. -/
theorem MemoryHost.outcome_scene (tools : Toolbox τ) (t : ExceptT ε (Program host) α) (s : MemoryHost τ) :
    s.scene.outcome tools t = ((s.perform tools t).1, (s.perform tools t).2.scene) :=
  run_image scene (fun c u _ => u.answer_scene tools c) (only_true t.run) s

namespace Scene

variable (tools : Toolbox τ)

/-- Two tasks in a row: the second ends on the scene that the first leaves, if the first succeeds. -/
theorem outcome_bind (t : ExceptT ε (Program VolumeDriver.host) α) (f : α → ExceptT ε (Program VolumeDriver.host) β)
    (s : Scene τ) :
    s.outcome tools (t >>= f) =
      match s.outcome tools t with
      | (.ok a, u) => u.outcome tools (f a)
      | (.error e, u) => (.error e, u) := by
  unfold outcome
  rw [run_except_bind]
  rcases Program.run (I := VolumeDriver.host) (answer tools) t.run s with ⟨_ | a, u⟩ <;> rfl

theorem outcome_attempt (t : HostTask α) (s : Scene τ) :
    s.outcome tools t.attempt = (.ok (s.outcome tools t).1, (s.outcome tools t).2) := run_attempt (answer tools) t s

theorem outcome_onHost (t : HostTask α) (s : Scene τ) :
    s.outcome tools (Publication.onHost t) = ((s.outcome tools t).1.mapError .mount, (s.outcome tools t).2) :=
  Publication.run_onHost (answer tools) t s

/-- Calls but commands are answered whatever the tools are, and leave them alone. -/
theorem answer_withTools {c : HostCall} (h : c.Runs fun _ => False) (tools' : Toolbox υ) (t : υ) (s : Scene τ) :
    answer tools' c (s.withTools t) = ((s.answer tools c).1, (s.answer tools c).2.withTools t) := by
  cases c with
  | run c => exact h.elim
  | mount m =>
    obtain ⟨source, target, fsType, options, sensitive⟩ := m
    cases source <;> rfl
  | unmount p patience =>
    show (((s.withTools t).host.unmount p).1, ((s.withTools t).host.unmount p).2.scene) =
      ((s.host.unmount p).1, (s.host.unmount p).2.scene.withTools t)
    have hresolve : (s.withTools t).host.resolve p = s.host.resolve p := rfl
    have hfailures : (s.withTools t).host.unmountFailures = s.host.unmountFailures := rfl
    unfold MemoryHost.unmount
    dsimp only
    rw [hresolve, hfailures]
    split <;> rfl
  | _ => rfl

/-- A call that runs no command leaves the tools as they are. -/
theorem tools_answer {c : HostCall} (h : c.Runs fun _ => False) (s : Scene τ) : (s.answer tools c).2.tools = s.tools :=
  congrArg (fun x => x.2.tools) (answer_withTools tools h tools s.tools s)

/-- A task that runs no command has the same outcome whatever the tools are. -/
theorem outcome_of_quiet {t : ExceptT ε (Program VolumeDriver.host) α} (ht : Quiet t) (tools' : Toolbox υ) (v : υ)
    (s : Scene τ) :
    (s.withTools v).outcome tools' t = ((s.outcome tools t).1, (s.outcome tools t).2.withTools v) :=
  run_image (fun u : Scene τ => u.withTools v) (fun _ u hc => answer_withTools tools hc tools' v u) ht s

/-- It leaves the tools alone. -/
theorem tools_of_quiet {t : ExceptT ε (Program VolumeDriver.host) α} (ht : Quiet t) (s : Scene τ) :
    (s.outcome tools t).2.tools = s.tools :=
  congrArg (fun x => x.2.tools) (outcome_of_quiet tools ht tools s.tools s)

/-- A task that asks for nothing but files depends on the files alone, and changes them alone. -/
theorem outcome_of_files {t : ExceptT ε (Program VolumeDriver.host) α}
    (ht : Only (I := VolumeDriver.host) (fun c => ∃ f, c = .file f) t.run) (tools' : Toolbox υ) {s : Scene τ} {u : Scene υ}
    (h : u.files = s.files) :
    u.outcome tools' t = ((s.outcome tools t).1, { u with files := (s.outcome tools t).2.files }) := by
  have hstep : ∀ (c : HostCall) (v : Scene τ), (∃ f, c = .file f) →
      answer tools' c { u with files := v.files } =
        ((v.answer tools c).1, { u with files := (v.answer tools c).2.files }) := by
    rintro _ v ⟨f, rfl⟩
    rfl
  have himage := run_image (fun v : Scene τ => { u with files := v.files }) hstep ht s
  rwa [← h] at himage

/-- A command is answered by the tools, and changes them alone. -/
theorem answer_run (c : Command) (s : Scene τ) :
    s.answer tools (.run c) = (.ok (tools.run c s.tools).1, s.withTools (tools.run c s.tools).2) := rfl

end Scene

end VolumeDriver
