import VolumeDriver.Proofs.Host.Memory

/-!
# What handling a mapping runs

The tasks that handle a mapping run the encryption program and nothing else. Closing a mapping asks for its status first, and
runs `luksClose` exactly if the mapping is said to be active (`closeMapping_cases`).
-/

namespace VolumeDriver.Encryption

open HostTask Program

/-! ## Whatever answers -/

section Commands

variable {σ : Type} (answer : (c : HostCall) → σ → Except MountError c.Answer × σ)

theorem commands_run (c : Command) (s : σ) : commands answer (run c) s = [(c, (answer (.run c) s).1)] := by
  rw [run, commands_bind, run_askHost, commands_askRun]
  rcases answer (.run c) s with ⟨_ | o, s'⟩
  · rfl
  · dsimp only
    rw [commands_bind_of_quiet _ (fun _ _ => rfl)]
    rfl

/-- The status of a mapping is asked for with one command. -/
theorem commands_isActive (name : String) (s : σ) :
    commands answer (isActive name) s = [(statusCommand name, (answer (.run (statusCommand name)) s).1)] := by
  rw [isActive, commands_bind, run_askHost, commands_askRun]
  rcases answer (.run (statusCommand name)) s with ⟨_ | o, s'⟩
  · rfl
  · dsimp only
    split
    · rfl
    · split <;> rfl

theorem only_run {Q : HostCall → Prop} {c : Command} (h : Q (.run c)) : Only (I := host) Q (run c).run :=
  Only.except_bind (only_ask h) fun _ => Only.except_bind trivial fun _ => trivial

theorem only_isActive {Q : HostCall → Prop} {name : String} (h : Q (.run (statusCommand name))) :
    Only (I := host) Q (isActive name).run := by
  refine Only.except_bind (only_ask h) fun o => ?_
  split
  · trivial
  · split <;> trivial

/-- To open a mapping takes a look at its status, and the command that opens it. -/
theorem only_open {Q : HostCall → Prop} {device : Path} {name passphrase : String} (hstatus : Q (.run (statusCommand name)))
    (hopen : Q (.run (openCommand device name passphrase))) : Only (I := host) Q (openMapping device name passphrase).run := by
  refine Only.except_bind (only_isActive hstatus) fun active => ?_
  split
  · trivial
  · exact only_run hopen

/-- To close a mapping takes a look at its status, and the command that closes it. -/
theorem only_close {Q : HostCall → Prop} {name : String} (hstatus : Q (.run (statusCommand name)))
    (hclose : Q (.run (closeCommand name))) : Only (I := host) Q (closeMapping name).run := by
  refine Only.except_bind (only_isActive hstatus) fun active => ?_
  split
  · exact only_run hclose
  · trivial

/-- Closing a mapping changes no mount. -/
theorem keepsTable_closeMapping (name : String) : Only HostCall.KeepsTable (closeMapping name).run :=
  only_close (Q := HostCall.KeepsTable) trivial trivial

end Commands

/-! ## On a host in memory -/

variable {τ : Type} (tools : Toolbox τ)

/-- What is made of the outcome of the status command. -/
theorem perform_isActive (name : String) (s : MemoryHost τ) :
    s.perform tools (isActive name) =
      (if (tools.run (statusCommand name) s.tools).1.code = some 0 then .ok true
        else if (tools.run (statusCommand name) s.tools).1.code = some inactive then .ok false
        else .error (.commandFailed (statusCommand name).render (tools.run (statusCommand name) s.tools).1),
        (s.run tools (statusCommand name)).2) := by
  rw [isActive, MemoryHost.perform_bind, MemoryHost.perform_ask]
  dsimp only [MemoryHost.answer, MemoryHost.run]
  split
  · rfl
  · split <;> rfl

/-- What is made of the outcome of a command that must succeed. -/
theorem perform_run (c : Command) (s : MemoryHost τ) :
    s.perform tools (run c) =
      (if (tools.run c s.tools).1.code = some 0 then .ok () else .error (.commandFailed c.render (tools.run c s.tools).1),
        (s.run tools c).2) := by
  rw [run, MemoryHost.perform_bind, MemoryHost.perform_ask]
  dsimp only [MemoryHost.answer, MemoryHost.run, CommandOutput.check, CommandOutput.isSuccess]
  by_cases h : (tools.run c s.tools).1.code = some 0
  · simp only [h, decide_true, if_true]
    rfl
  · simp only [h, decide_false, if_false]
    rfl

section Closing

variable {tools} {name : String} {s u : MemoryHost τ}

/-- An active mapping is closed after its status was asked for. -/
theorem closeMapping_of_active (h : s.perform tools (isActive name) = (.ok true, u)) :
    commands (MemoryHost.answer tools) (closeMapping name) s =
        commands (MemoryHost.answer tools) (isActive name) s ++
          commands (MemoryHost.answer tools) (run (closeCommand name)) u ∧
      s.perform tools (closeMapping name) = u.perform tools (run (closeCommand name)) := by
  constructor
  · rw [closeMapping, commands_bind, ← MemoryHost.perform, h]
    rfl
  · rw [closeMapping, MemoryHost.perform_bind, h]
    rfl

/-- An inactive mapping is left alone. -/
theorem closeMapping_of_inactive (h : s.perform tools (isActive name) = (.ok false, u)) :
    commands (MemoryHost.answer tools) (closeMapping name) s = commands (MemoryHost.answer tools) (isActive name) s ∧
      s.perform tools (closeMapping name) = (.ok (), u) := by
  constructor
  · rw [closeMapping, commands_bind, ← MemoryHost.perform, h]
    exact List.append_nil _
  · rw [closeMapping, MemoryHost.perform_bind, h]
    rfl

/-- If its status cannot be told, a mapping is left alone. -/
theorem closeMapping_of_error {e : MountError} (h : s.perform tools (isActive name) = (.error e, u)) :
    commands (MemoryHost.answer tools) (closeMapping name) s = commands (MemoryHost.answer tools) (isActive name) s ∧
      s.perform tools (closeMapping name) = (.error e, u) := by
  constructor
  · rw [closeMapping, commands_bind, ← MemoryHost.perform, h]
    exact List.append_nil _
  · rw [closeMapping, MemoryHost.perform_bind, h]

end Closing

/-- A mapping that is said to be active is closed, and closing it is what succeeds or fails; any other is left alone, which is
a success if it is said to be inactive. -/
theorem closeMapping_cases (name : String) (s : MemoryHost τ) {o o' : CommandOutput} {t t' : τ}
    (hstatus : tools.run (statusCommand name) s.tools = (o, t)) (hclose : tools.run (closeCommand name) t = (o', t')) :
    (o.code = some 0 ∧
        commands (MemoryHost.answer tools) (closeMapping name) s = [(statusCommand name, .ok o), (closeCommand name, .ok o')] ∧
        (s.perform tools (closeMapping name)).2.tools = t' ∧
        ((s.perform tools (closeMapping name)).1 = .ok () ↔ o'.code = some 0)) ∨
      (o.code ≠ some 0 ∧ commands (MemoryHost.answer tools) (closeMapping name) s = [(statusCommand name, .ok o)] ∧
        (s.perform tools (closeMapping name)).2.tools = t ∧
        ((s.perform tools (closeMapping name)).1 = .ok () ↔ o.code = some inactive)) := by
  have hasked : commands (MemoryHost.answer tools) (isActive name) s = [(statusCommand name, .ok o)] := by
    rw [commands_isActive, MemoryHost.answer, MemoryHost.run, hstatus]
  have hactive := perform_isActive tools name s
  rw [hstatus] at hactive
  generalize hu : (s.run tools (statusCommand name)).2 = u at hactive
  have htools : u.tools = t := by rw [← hu, MemoryHost.run, hstatus]
  by_cases hzero : o.code = some 0
  · rw [if_pos hzero] at hactive
    obtain ⟨hcommands, hperform⟩ := closeMapping_of_active hactive
    refine Or.inl ⟨hzero, ?_, ?_, ?_⟩
    · rw [hcommands, hasked, commands_run, MemoryHost.answer, MemoryHost.run, htools, hclose]
      rfl
    · rw [hperform, perform_run, MemoryHost.run, htools, hclose]
    · rw [hperform, perform_run, htools, hclose]
      by_cases hclosed : o'.code = some 0 <;> simp [hclosed]
  · rw [if_neg hzero] at hactive
    by_cases hfour : o.code = some inactive
    · rw [if_pos hfour] at hactive
      obtain ⟨hcommands, hperform⟩ := closeMapping_of_inactive hactive
      exact Or.inr ⟨hzero, by rw [hcommands, hasked], by rw [hperform, htools], by rw [hperform]; simp [hfour]⟩
    · rw [if_neg hfour] at hactive
      obtain ⟨hcommands, hperform⟩ := closeMapping_of_error hactive
      exact Or.inr ⟨hzero, by rw [hcommands, hasked], by rw [hperform, htools], by rw [hperform]; simp [hfour]⟩

/-- Whether a mapping is closed depends on its status alone. -/
theorem closes_iff (name : String) (s : MemoryHost τ) :
    (∃ answer, (closeCommand name, answer) ∈ commands (MemoryHost.answer tools) (closeMapping name) s) ↔
      (tools.run (statusCommand name) s.tools).1.code = some 0 := by
  rcases hstatus : tools.run (statusCommand name) s.tools with ⟨o, t⟩
  rcases hclose : tools.run (closeCommand name) t with ⟨o', t'⟩
  rcases closeMapping_cases tools name s hstatus hclose with ⟨hzero, hcommands, _⟩ | ⟨hne, hcommands, _⟩
  · rw [hcommands]
    simp [hzero]
  · rw [hcommands]
    simp [hne, closeCommand, statusCommand]

end VolumeDriver.Encryption
