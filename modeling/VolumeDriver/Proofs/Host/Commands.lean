import VolumeDriver.Proofs.Program
import VolumeDriver.Publication

/-!
# The commands that a task runs

What a task runs on a host, whatever answers its calls: its commands in order, each with its answer.
-/

namespace VolumeDriver

open Program

@[simp]
theorem mapError_ok {ε ε' α : Type} (f : ε → ε') (a : α) : (Except.ok a : Except ε α).mapError f = .ok a := rfl

@[simp]
theorem mapError_error {ε ε' α : Type} (f : ε → ε') (e : ε) : (Except.error e : Except ε α).mapError f = .error (f e) := rfl

/-- A command that was run, and what the host answered. -/
abbrev CommandRun := Command × Except MountError CommandOutput

/-- The command of an exchange, if one was run. -/
def commandOf : Exchange host → Option CommandRun
  | ⟨.run c, answer⟩ => some (c, answer)
  | _ => none

/-- If the call runs a command, it is one that satisfies `Q`. -/
def HostCall.Runs (Q : Command → Prop) : HostCall → Prop
  | run c => Q c
  | _ => True

/-- A call that runs no command, and neither mounts nor unmounts. -/
def HostCall.Settled : HostCall → Prop
  | run _ | mount _ | unmount _ _ => False
  | _ => True

/-- A call that neither mounts nor unmounts. -/
def HostCall.KeepsTable : HostCall → Prop
  | mount _ | unmount _ _ => False
  | _ => True

/-- A settled call neither mounts nor unmounts. -/
theorem HostCall.Settled.keepsTable {c : HostCall} (h : c.Settled) : c.KeepsTable := by
  cases c with
  | run c => trivial
  | mount m => exact h.elim
  | unmount p patience => exact h.elim
  | _ => trivial

theorem HostCall.Settled.runs {Q : Command → Prop} {c : HostCall} (h : c.Settled) : c.Runs Q := by
  cases c with
  | run c => exact h.elim
  | _ => trivial

namespace HostTask

variable {σ α β : Type} {ε : Type}

/-- The commands of a run, in order. -/
def commands (answer : (c : HostCall) → σ → Except MountError c.Answer × σ) (t : ExceptT ε (Program host) α) (s : σ) :
    List CommandRun :=
  (Program.exchanges (I := host) answer t.run s).filterMap commandOf

variable (answer : (c : HostCall) → σ → Except MountError c.Answer × σ)

@[simp]
theorem commands_ofExcept (r : Except MountError α) (s : σ) : commands answer (ofExcept r) s = [] := rfl

@[simp]
theorem commands_askRun (c : Command) (s : σ) : commands answer (askHost (.run c)) s = [(c, (answer (.run c) s).1)] := rfl

/-- What follows a failure is not run. -/
theorem commands_bind (t : ExceptT ε (Program host) α) (f : α → ExceptT ε (Program host) β) (s : σ) :
    commands answer (t >>= f) s =
      commands answer t s ++
        match Program.run (I := host) answer t.run s with
        | (.ok a, s') => commands answer (f a) s'
        | (.error _, _) => [] := by
  rw [commands, exchanges_except_bind, List.filterMap_append]
  rcases Program.run (I := host) answer t.run s with ⟨_ | a, s'⟩ <;> rfl

/-- Nothing is run behind an error. -/
@[simp]
theorem commands_throw_bind (e : ε) (f : α → ExceptT ε (Program host) β) (s : σ) :
    commands answer ((throw e : ExceptT ε (Program host) α) >>= f) s = [] := rfl

/-- What runs no command adds none. -/
theorem commands_bind_of_quiet {f : α → ExceptT ε (Program host) β} (hf : ∀ a s, commands answer (f a) s = [])
    (t : ExceptT ε (Program host) α) (s : σ) : commands answer (t >>= f) s = commands answer t s := by
  rw [commands_bind]
  split
  · rw [hf, List.append_nil]
  · rw [List.append_nil]

/-- The commands that a task runs are commands that it can run. -/
theorem of_mem_commands {Q : Command → Prop} {t : ExceptT ε (Program host) α} (ht : Only (HostCall.Runs Q) t.run)
    (s : σ) : ∀ x ∈ commands answer t s, Q x.1 := by
  intro x hx
  obtain ⟨e, he, hxe⟩ := List.mem_filterMap.1 hx
  obtain ⟨c, r⟩ := e
  cases c with
  | run d =>
    cases hxe
    exact ht.exchanges answer s _ he
  | _ => nomatch hxe

/-- A task makes the same calls when its error is taken for a result. -/
theorem only_attempt {Q : HostCall → Prop} {t : HostTask α} (ht : Only (I := host) Q t.run) :
    Only (I := host) Q t.attempt.run := Only.bind ht fun _ => trivial

/-! ### Tasks that run no command -/

/-- The task can run no command. -/
def Quiet (t : ExceptT ε (Program host) α) : Prop := Only (HostCall.Runs fun _ => False) t.run

/-- A quiet task runs no command on any host. -/
theorem Quiet.commands {t : ExceptT ε (Program host) α} (ht : Quiet t) (s : σ) : commands answer t s = [] :=
  List.eq_nil_iff_forall_not_mem.2 (of_mem_commands answer ht s)

theorem quiet_pure (a : α) : Quiet (pure a : ExceptT ε (Program host) α) := trivial

theorem quiet_throw (e : ε) : Quiet (throw e : ExceptT ε (Program host) α) := trivial

/-- A call that runs no command is quiet. -/
theorem quiet_ask {c : HostCall} (h : c.Runs fun _ => False := by trivial) : Quiet (askHost c) := only_ask h

/-- A task of settled calls is quiet. -/
theorem Quiet.of_settled {t : ExceptT ε (Program host) α} (ht : Only HostCall.Settled t.run) : Quiet t :=
  ht.mono fun _ => HostCall.Settled.runs

/-- Quiet tasks in a row are quiet. -/
theorem Quiet.bind {t : ExceptT ε (Program host) α} {f : α → ExceptT ε (Program host) β} (ht : Quiet t)
    (hf : ∀ a, Quiet (f a)) : Quiet (t >>= f) := Only.except_bind ht hf

/-- A quiet task is quiet when its error is taken for a result. -/
theorem Quiet.attempt {t : HostTask α} (ht : Quiet t) : Quiet t.attempt := only_attempt ht

end HostTask

/-! ## Probing -/

namespace Disk

variable {σ : Type} (answer : (c : HostCall) → σ → Except MountError c.Answer × σ)

/-- To look for a format is to probe the device once, and to read what the probe says. -/
theorem run_format (device : Path) (s : σ) :
    Program.run (I := host) answer (format device).run s =
      match answer (.run (probe device)) s with
      | (.ok o, s') => (formatOf device o, s')
      | (.error e, s') => (.error e, s') := by
  rw [format, run_except_bind, HostTask.run_askHost]
  rcases answer (.run (probe device)) s with ⟨_ | o, s'⟩ <;> rfl

/-- To look for a format runs one probe of the device, and nothing else. -/
@[simp]
theorem commands_format (device : Path) (s : σ) :
    HostTask.commands answer (format device) s = [(probe device, (answer (.run (probe device)) s).1)] := by
  rw [format, HostTask.commands_bind, HostTask.run_askHost, HostTask.commands_askRun]
  rcases answer (.run (probe device)) s with ⟨_ | o, s'⟩ <;> simp

end Disk

namespace Publication

variable {σ α : Type} (answer : (c : HostCall) → σ → Except MountError c.Answer × σ)

/-- A task of the host runs the same as a task of publishing. -/
theorem run_onHost (t : HostTask α) (s : σ) :
    Program.run (I := host) answer (onHost t).run s =
      ((Program.run (I := host) answer t.run s).1.mapError .mount, (Program.run (I := host) answer t.run s).2) := by
  show Program.run (I := host) answer (Program.bind t.run _) s = _
  rw [run_bind]
  rcases Program.run (I := host) answer t.run s with ⟨_ | a, s'⟩ <;> rfl

/-- A task runs the same commands as part of a publication. -/
@[simp]
theorem commands_onHost (t : HostTask α) (s : σ) : HostTask.commands answer (onHost t) s = HostTask.commands answer t s := by
  show (exchanges (I := host) answer (Program.bind t.run _) s).filterMap commandOf = _
  rw [exchanges_bind]
  rcases Program.run (I := host) answer t.run s with ⟨_ | a, s'⟩ <;> simp [HostTask.commands]

/-- A task makes the same calls as part of a publication. -/
theorem only_onHost {Q : HostCall → Prop} {t : HostTask α} (ht : Only (I := host) Q t.run) :
    Only (I := host) Q (onHost t).run :=
  ht.bind fun r => by cases r <;> trivial

end Publication

end VolumeDriver
