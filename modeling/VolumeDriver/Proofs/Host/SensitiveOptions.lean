import Mathlib.Data.List.Forall2
import VolumeDriver.Host.System
import VolumeDriver.Proofs.Mount.Options
import VolumeDriver.Proofs.Program

/-!
# Sensitive options are passed on and never told

A mount with other sensitive options is made by the same commands, but for the one argument that holds all options
(`command_mountCommand`), and they are told in the same words (`toldAlike_mountCommands`). So two such mounts whose commands end alike
run as many commands, log the same and fail the same (`mount_conceals`).
-/

namespace VolumeDriver

open Files Program Text

/-! ## What is seen of a command that mounts -/

namespace MountCommand

/-- What becomes of a mount when one of its commands has ended. -/
def verdict (c : MountCommand) : Except IoError EndedProcess → Except MountError Unit
  | .error e => .error (.io e)
  | .ok p => if p.toOutput.isSuccess then .ok () else .error (.commandFailed (mountProgram ++ " " ++ c.told) p.toOutput)

/-- A command that was run to its end, and succeeded. -/
def Succeeded (ended : Except IoError EndedProcess) : Prop := ∃ p, ended = .ok p ∧ p.toOutput.isSuccess = true

/-- A mount goes on behind a command that has succeeded. -/
theorem verdict_of_succeeded {c : MountCommand} {ended : Except IoError EndedProcess} (h : Succeeded ended) :
    c.verdict ended = .ok () := by
  obtain ⟨p, rfl, hsuccess⟩ := h
  rw [verdict, if_pos hsuccess]

/-- What is logged of a command: that it is run, and that it failed. -/
def logs (c : MountCommand) : Except IoError EndedProcess → List String
  | .error _ => ["Mounting cmd " ++ c.program ++ " with arguments (" ++ c.told ++ ")"]
  | .ok p =>
    ("Mounting cmd " ++ c.program ++ " with arguments (" ++ c.told ++ ")") ::
      if p.toOutput.isSuccess then [] else ["Mount failed: " ++ c.told]

/-- Two commands that are told in the same words. -/
structure ToldAlike (c d : MountCommand) : Prop where
  program : c.program = d.program
  told : c.told = d.told

variable {c d : MountCommand}

/-- Commands that are told alike come to the same, however they end. -/
theorem ToldAlike.verdict_eq (h : ToldAlike c d) (ended : Except IoError EndedProcess) : c.verdict ended = d.verdict ended := by
  cases ended with
  | error e => rfl
  | ok p => rw [verdict, verdict, h.told]

/-- Commands that are told alike are logged alike, however they end. -/
theorem ToldAlike.logs_eq (h : ToldAlike c d) (ended : Except IoError EndedProcess) : c.logs ended = d.logs ended := by
  cases ended with
  | error e => rw [logs, logs, h.program, h.told]
  | ok p => rw [logs, logs, h.program, h.told]

/-- Commands that are told alike log the same, however they end. -/
theorem zipWith_logs {cs ds : List MountCommand} (h : List.Forall₂ ToldAlike cs ds) (ended : List (Except IoError EndedProcess)) :
    List.zipWith logs cs ended = List.zipWith logs ds ended := by
  induction h generalizing ended with
  | nil => rfl
  | cons hc _ ih =>
    cases ended with
    | nil => rfl
    | cons r ended => rw [List.zipWith_cons_cons, List.zipWith_cons_cons, hc.logs_eq, ih]

end MountCommand

namespace SystemHost

/-! ## Runs of commands that mount -/

section

variable {σ α : Type} (answer : (c : MachineCall) → σ → Except IoError c.Answer × σ)

/-- A command that was run to its end, with how it ended. -/
def ran? : Exchange machine → Option (Command × Except IoError EndedProcess)
  | ⟨.run c, ended⟩ => some (c, ended)
  | _ => none

/-- The commands that a task runs on a machine, each with how it ended. -/
def ran (t : MachineTask α) (s : σ) : List (Command × Except IoError EndedProcess) :=
  (exchanges (I := machine) answer t.run s).filterMap ran?

/-- How a task ends on a machine. -/
def outcome (t : MachineTask α) (s : σ) : Except MountError α := (Program.run (I := machine) answer t.run s).1

theorem run_askMachine (c : MachineCall) (s : σ) : Program.run (I := machine) answer (askMachine c).run s =
    ((answer c s).1.mapError .io, (answer c s).2) := by
  show Program.run (I := machine) answer (Program.bind (Program.ask (I := machine) c) _) s = _
  have hask : Program.run (I := machine) answer (Program.ask (I := machine) c) s = answer c s := rfl
  rw [run_bind, hask]
  rcases answer c s with ⟨_ | _, s'⟩ <;> rfl

theorem run_run (c : Command) (s : σ) : Program.run (I := machine) answer (run c).run s =
    (((answer (.run c) s).1.mapError .io).map EndedProcess.toOutput, (answer (.run c) s).2) := by
  show Program.run (I := machine) answer (Program.bind (askMachine (.run c)).run _) s = _
  rw [run_bind, run_askMachine]
  cases (answer (.run c) s).1 <;> rfl

theorem exchanges_askMachine (c : MachineCall) (s : σ) :
    exchanges (I := machine) answer (askMachine c).run s = [⟨c, (answer c s).1⟩] := by
  show exchanges (I := machine) answer (Program.bind (Program.ask (I := machine) c) _) s = _
  have hask : exchanges (I := machine) answer (Program.ask (I := machine) c) s = [⟨c, (answer c s).1⟩] := rfl
  have hrun : Program.run (I := machine) answer (Program.ask (I := machine) c) s = answer c s := rfl
  rw [exchanges_bind, hask, hrun]
  cases (answer c s).1 <;> rfl

theorem exchanges_run (c : Command) (s : σ) :
    exchanges (I := machine) answer (run c).run s = [⟨.run c, (answer (.run c) s).1⟩] := by
  show exchanges (I := machine) answer (Program.bind (askMachine (.run c)).run _) s = _
  rw [exchanges_bind, exchanges_askMachine, run_askMachine]
  cases (answer (.run c) s).1 <;> rfl

/-- To run a command of a mount is to run it on the machine, and to judge how it ended. -/
theorem run_runMount (c : MountCommand) (s : σ) : Program.run (I := machine) answer (runMount c).run s =
    (c.verdict (answer (.run c.command) s).1, (answer (.run c.command) s).2) := by
  rw [runMount, run_except_bind, run_run]
  cases (answer (.run c.command) s).1 with
  | error e => rfl
  | ok p =>
    show Program.run (I := machine) answer (ExceptT.run (unless _ do _)) _ = _
    rw [MountCommand.verdict]
    cases p.toOutput.isSuccess <;> rfl

/-- The commands of a mount are run as long as each of them succeeds. -/
theorem outcome_runMounts_cons (c : MountCommand) (cs : List MountCommand) (s : σ) : outcome answer (runMounts (c :: cs)) s =
    match c.verdict (answer (.run c.command) s).1 with
    | .ok _ => outcome answer (runMounts cs) (answer (.run c.command) s).2
    | .error e => .error e := by
  rw [outcome, runMounts, run_except_bind, run_runMount]
  cases c.verdict (answer (.run c.command) s).1 <;> rfl

/-- To run a command of a mount is one exchange with the machine. -/
theorem exchanges_runMount (c : MountCommand) (s : σ) :
    exchanges (I := machine) answer (runMount c).run s = [⟨.run c.command, (answer (.run c.command) s).1⟩] := by
  rw [runMount, exchanges_except_bind, exchanges_run, run_run]
  cases (answer (.run c.command) s).1 with
  | error e => rfl
  | ok p =>
    show _ ++ exchanges (I := machine) answer (ExceptT.run (unless p.toOutput.isSuccess do _)) _ = _
    cases p.toOutput.isSuccess <;> rfl

/-- The first command of a mount is run, and the others behind it if it succeeds. -/
theorem ran_runMounts_cons (c : MountCommand) (cs : List MountCommand) (s : σ) : ran answer (runMounts (c :: cs)) s =
    (c.command, (answer (.run c.command) s).1) ::
      match c.verdict (answer (.run c.command) s).1 with
      | .ok _ => ran answer (runMounts cs) (answer (.run c.command) s).2
      | .error _ => [] := by
  rw [ran, runMounts, exchanges_except_bind, run_runMount, exchanges_runMount]
  cases c.verdict (answer (.run c.command) s).1 <;> rfl

/-- Commands that mount are run in order, up to the first that fails. -/
theorem commands_runMounts (cs : List MountCommand) (s : σ) :
    (ran answer (runMounts cs) s).map (·.1) <+: cs.map MountCommand.command ∧
      ((∀ ended ∈ (ran answer (runMounts cs) s).map (·.2), MountCommand.Succeeded ended) →
        (ran answer (runMounts cs) s).map (·.1) = cs.map MountCommand.command) := by
  induction cs generalizing s with
  | nil => exact ⟨List.prefix_refl _, fun _ => rfl⟩
  | cons c cs ih =>
    rw [ran_runMounts_cons]
    cases hverdict : c.verdict (answer (.run c.command) s).1 with
    | error e =>
      refine ⟨(List.prefix_cons_inj _).2 List.nil_prefix, fun hall => ?_⟩
      rw [MountCommand.verdict_of_succeeded (hall _ List.mem_cons_self)] at hverdict
      cases hverdict
    | ok _ =>
      obtain ⟨hfirst, hrest⟩ := ih (answer (.run c.command) s).2
      refine ⟨(List.prefix_cons_inj _).2 hfirst, fun hall => congrArg (List.cons _) (hrest ?_)⟩
      exact (List.forall_mem_cons.1 hall).2

end

section

variable {σ σ' : Type} (answer : (c : MachineCall) → σ → Except IoError c.Answer × σ)
  (answer' : (c : MachineCall) → σ' → Except IoError c.Answer × σ')

/-- Commands that are told alike end alike as long as they are answered alike. -/
theorem runMounts_alike {cs cs' : List MountCommand} (halike : List.Forall₂ MountCommand.ToldAlike cs cs') {s : σ} {s' : σ'}
    (hsame : ∀ x ∈ (ran answer (runMounts cs) s).zip (ran answer' (runMounts cs') s'), x.1.2 = x.2.2) :
    outcome answer (runMounts cs) s = outcome answer' (runMounts cs') s' ∧
      (ran answer (runMounts cs) s).map (·.2) = (ran answer' (runMounts cs') s').map (·.2) := by
  induction halike generalizing s s' with
  | nil => exact ⟨rfl, rfl⟩
  | @cons c c' cs cs' hc _ ih =>
    rw [ran_runMounts_cons, ran_runMounts_cons, List.zip_cons_cons, List.forall_mem_cons] at hsame
    obtain ⟨hfirst, hrest⟩ := hsame
    dsimp only at hfirst
    rw [outcome_runMounts_cons, outcome_runMounts_cons, ran_runMounts_cons, ran_runMounts_cons, ← hc.verdict_eq, ← hfirst]
    rw [← hc.verdict_eq, ← hfirst] at hrest
    cases hverdict : c.verdict (answer (.run c.command) s).1 with
    | error e => exact ⟨rfl, rfl⟩
    | ok _ =>
      rw [hverdict] at hrest
      obtain ⟨houtcome, hended⟩ := ih hrest
      exact ⟨houtcome, congrArg (List.cons _) hended⟩

end

/-! ## The commands of a mount -/

/-- Sensitive options that have no say in how a mount is made. There is at least one. -/
structure Confidential (sensitive : List String) : Prop where
  some : sensitive ≠ []
  bind : BindOptions.bindName ∉ sensitive
  network : BindOptions.networkName ∉ sensitive

/-- The plain options of each command of a mount: a bind mount takes two commands. -/
def plainOptions (options : List String) : List (List String) :=
  if BindOptions.bindName ∈ options then
    [BindOptions.bindName :: options.filter (· = BindOptions.networkName),
      BindOptions.bindName :: "remount" :: options.filter (· ≠ BindOptions.bindName)]
  else [options]

variable (h : SystemHost) {m : MountRequest}

/-- Sensitive options that have no say in a mount are only carried along when the options are sorted. -/
theorem ofOptions_of_confidential (hm : Confidential m.sensitive) : BindOptions.ofOptions m.options m.sensitive =
    { isBind := decide (BindOptions.bindName ∈ m.options)
      bind := BindOptions.bindName :: m.options.filter (· = BindOptions.networkName)
      remount := BindOptions.bindName :: "remount" :: m.options.filter (· ≠ BindOptions.bindName)
      sensitive := m.sensitive } := by
  have hnetwork : m.sensitive.filter (· = BindOptions.networkName) = [] :=
    List.filter_eq_nil_iff.2 fun option hoption => by
      rw [decide_eq_true_eq]
      rintro rfl
      exact hm.network hoption
  have hkept : m.sensitive.filter (fun option => option ≠ BindOptions.bindName ∧ option ≠ BindOptions.networkName) = m.sensitive :=
    List.filter_eq_self.2 fun option hoption => by
      rw [decide_eq_true_eq]
      exact ⟨fun heq => hm.bind (heq ▸ hoption), fun heq => hm.network (heq ▸ hoption)⟩
  rw [BindOptions.ofOptions_eq, List.filter_append, hnetwork, hkept, List.append_nil, List.append_nil]
  simp [hm.bind]

/-- Each command of a mount has all its sensitive options, behind plain ones. -/
theorem mountCommands_eq (hm : Confidential m.sensitive) :
    h.mountCommands m = (plainOptions m.options).map fun plain => h.mountCommand { m with options := plain } := by
  rw [mountCommands, ofOptions_of_confidential hm, plainOptions]
  by_cases hbind : BindOptions.bindName ∈ m.options
  · rw [if_pos hbind]
    simp [hbind]
  · rw [if_neg hbind]
    simp [hbind]

/-- The program that mounts. -/
def mounter : String := if h.usesScopes then MountCommand.scopeProgram else MountCommand.mountProgram

/-- What is before the options in the command line of a mount. -/
def before (target : Path) (fsType : String) : List String :=
  (if h.usesScopes then
    ["--description=cloudvol transient mount for " ++ target.text, "--scope", "--", MountCommand.mountProgram] else []) ++
  MountCommand.option "-t" fsType

/-- What is behind the options in the command line of a mount. -/
def behind (source : Option Path) (target : Path) : List String := (source.map (·.text)).toList ++ [target.text]

/-- Commands that hand over the plain and the sensitive options of a mount in one argument, at the same place of the same line. -/
def handingOver (program : String) (before behind options sensitive : List String) : List Command :=
  (plainOptions options).map fun plain => ⟨program, before ++ "-o" :: joinWith "," (plain ++ sensitive) :: behind, none⟩

/-- A command of a mount hands over its options in one argument, the sensitive ones last. -/
theorem command_mountCommand (hsome : m.sensitive ≠ []) : (h.mountCommand m).command =
    ⟨h.mounter, h.before m.target m.fsType ++ "-o" :: joinWith "," (m.options ++ m.sensitive) :: behind m.source m.target, none⟩ := by
  rw [mountCommand, mounter, before]
  cases h.usesScopes <;> simp [MountCommand.command, MountCommand.ofRequest, MountCommand.inScope, behind, hsome]

/-- The commands of a mount differ in the plain options alone: all of them hand over the sensitive ones at one place. -/
theorem commands_mountCommands (hm : Confidential m.sensitive) : (h.mountCommands m).map MountCommand.command =
    handingOver h.mounter (h.before m.target m.fsType) (behind m.source m.target) m.options m.sensitive := by
  rw [mountCommands_eq h hm, List.map_map, handingOver]
  exact List.map_congr_left fun plain _ => command_mountCommand (m := { m with options := plain }) h hm.some

/-- With other sensitive options the command is told in the same words. -/
theorem toldAlike_mountCommand {sensitive : List String} (hsome : m.sensitive ≠ []) (hother : sensitive ≠ []) :
    MountCommand.ToldAlike (h.mountCommand m) (h.mountCommand { m with sensitive := sensitive }) := by
  have halike : MountCommand.ToldAlike (.ofRequest m) (.ofRequest { m with sensitive := sensitive }) :=
    ⟨rfl, by simp [MountCommand.ofRequest, hsome, hother]⟩
  rw [mountCommand, mountCommand]
  cases h.usesScopes with
  | false => exact halike
  | true => exact ⟨rfl, by simp only [MountCommand.inScope, halike.program, halike.told, if_true]⟩

/-- Mounts that differ in their sensitive options alone are told alike, command by command. -/
theorem toldAlike_mountCommands {sensitive : List String} (hm : Confidential m.sensitive) (hsensitive : Confidential sensitive) :
    List.Forall₂ MountCommand.ToldAlike (h.mountCommands m) (h.mountCommands { m with sensitive := sensitive }) := by
  rw [mountCommands_eq h hm, mountCommands_eq (m := { m with sensitive := sensitive }) h hsensitive, List.forall₂_map_left_iff,
    List.forall₂_map_right_iff, List.forall₂_same]
  exact fun plain _ => toldAlike_mountCommand (m := { m with options := plain }) h hm.some hsensitive.some

/-! ## What is seen of a mount -/

/-- What is seen of a mount: how each of its commands ended, what was logged of them, and how the mount ended. -/
structure Observation where
  ended : List (Except IoError EndedProcess)
  logs : List String
  outcome : Except MountError Unit

section

variable {σ σ' : Type} (answer : (c : MachineCall) → σ → Except IoError c.Answer × σ)
  (answer' : (c : MachineCall) → σ' → Except IoError c.Answer × σ')

def observe (m : MountRequest) (s : σ) : Observation where
  ended := (ran answer (h.mount m) s).map (·.2)
  logs := (List.zipWith MountCommand.logs (h.mountCommands m) ((ran answer (h.mount m) s).map (·.2))).flatten
  outcome := outcome answer (h.mount m) s

/-- Of two mounts that differ in their confidential options alone, and whose commands end alike, the same is seen: as many commands, the
same logs and the same errors. The commands are run in order, up to the first that fails. All options of each are handed over in one
argument, the sensitive ones last, and the rest of the command line is the same for both mounts. -/
theorem mount_conceals {sensitive : List String} (hm : Confidential m.sensitive) (hsensitive : Confidential sensitive) {s : σ} {s' : σ'}
    (hsame : ∀ x ∈ (ran answer (h.mount m) s).zip (ran answer' (h.mount { m with sensitive := sensitive }) s'), x.1.2 = x.2.2) :
    h.observe answer m s = h.observe answer' { m with sensitive := sensitive } s' ∧
      ∃ program before behind,
        (ran answer (h.mount m) s).map (·.1) <+: handingOver program before behind m.options m.sensitive ∧
        (ran answer' (h.mount { m with sensitive := sensitive }) s').map (·.1) <+: handingOver program before behind m.options sensitive ∧
        ((∀ ended ∈ (ran answer (h.mount m) s).map (·.2), MountCommand.Succeeded ended) →
          (ran answer (h.mount m) s).map (·.1) = handingOver program before behind m.options m.sensitive ∧
          (ran answer' (h.mount { m with sensitive := sensitive }) s').map (·.1) =
            handingOver program before behind m.options sensitive) := by
  have halike := toldAlike_mountCommands h hm hsensitive
  obtain ⟨houtcome, hended⟩ : outcome answer (h.mount m) s = outcome answer' (h.mount { m with sensitive := sensitive }) s' ∧
      (ran answer (h.mount m) s).map (·.2) = (ran answer' (h.mount { m with sensitive := sensitive }) s').map (·.2) :=
    runMounts_alike answer answer' halike hsame
  obtain ⟨hfirst, hall⟩ := commands_runMounts answer (h.mountCommands m) s
  obtain ⟨hfirst', hall'⟩ := commands_runMounts answer' (h.mountCommands { m with sensitive := sensitive }) s'
  rw [commands_mountCommands h hm] at hfirst hall
  rw [commands_mountCommands (m := { m with sensitive := sensitive }) h hsensitive] at hfirst' hall'
  refine ⟨?_, _, _, _, hfirst, hfirst', fun hsucceeded => ⟨hall hsucceeded, hall' ?_⟩⟩
  · rw [observe, observe, MountCommand.zipWith_logs halike, hended, houtcome]
  · rw [hended] at hsucceeded
    exact hsucceeded

end

/-- A bind mount with a password, in a scope. -/
def guardedMount : MountRequest := ⟨some ⟨"/dev/sda"⟩, ⟨"/mnt"⟩, "cifs", ["bind", "ro"], ["password=a"]⟩

/-- A machine that runs the first command and no other. -/
def reluctantMachine : (c : MachineCall) → Nat → Except IoError c.Answer × Nat
  | .run _, 0 => (.ok ⟨.code 0, .empty⟩, 1)
  | .run _, n => (.ok ⟨.code 32, .empty⟩, n + 1)
  | .file _, n | .read _, n | .device _, n | .find _, n | .runFor _ _, n => (.error (.os .notPermitted), n)

/-- A mount in a scope whose second command fails looks the same with another name and password. -/
theorem mount_conceals_guarded :
    Confidential guardedMount.sensitive ∧ Confidential ["user=b", "password=b"] ∧
      observe ⟨true⟩ reluctantMachine guardedMount 0 =
        observe ⟨true⟩ reluctantMachine { guardedMount with sensitive := ["user=b", "password=b"] } 0 ∧
      outcome reluctantMachine (mount ⟨true⟩ guardedMount) 0 = .error (.commandFailed
        "mount --description=cloudvol transient mount for /mnt --scope -- mount -t cifs -o bind,remount,ro /dev/sda /mnt" ⟨some 32, ""⟩) := by
  have hfirst : Confidential guardedMount.sensitive := ⟨by decide, by decide, by decide⟩
  have hsecond : Confidential ["user=b", "password=b"] := ⟨by decide, by decide, by decide⟩
  have hended : (ran reluctantMachine (mount ⟨true⟩ guardedMount) 0).map (·.2) =
      [.ok ⟨.code 0, .empty⟩, .ok ⟨.code 32, .empty⟩] := by rfl
  have hended' : (ran reluctantMachine (mount ⟨true⟩ { guardedMount with sensitive := ["user=b", "password=b"] }) 0).map (·.2) =
      [.ok ⟨.code 0, .empty⟩, .ok ⟨.code 32, .empty⟩] := by rfl
  refine ⟨hfirst, hsecond, (mount_conceals ⟨true⟩ reluctantMachine reluctantMachine hfirst hsecond fun x hx => ?_).1, by rfl⟩
  have hpair := List.mem_map_of_mem (f := Prod.map Prod.snd Prod.snd) hx
  rw [← List.zip_map, hended, hended', List.zip_cons_cons, List.zip_cons_cons, List.zip_nil_left, List.mem_pair] at hpair
  rcases hpair with hpair | hpair <;> exact (congrArg Prod.fst hpair).trans (congrArg Prod.snd hpair).symm

end SystemHost

end VolumeDriver
