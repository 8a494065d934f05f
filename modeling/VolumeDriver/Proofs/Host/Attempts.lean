import VolumeDriver.Proofs.Host.Scene

/-!
# Attempts that are cut short

Any command of an attempt at a task may fail, with a code that says nothing else, be it before it did anything or after it did
all that it does (`Toolbox.faulty`). `Scene.Attempt` says how an attempt can end. A task resumes (`Scene.Resumes`) if an attempt
that succeeds is as good as one in which nothing fails, and one that does not leaves a scene from which the task still has the
outcome that it had at first. A step after another keeps this if what is left of it still shows that the first step is done
(`Resumes.bind`), and a step resumes if it looks whether it was done before it does anything (`Resumes.guarded`).
-/

namespace VolumeDriver

open Program HostTask

/-- A failure planned for a command: how the command ends, and whether it does its work before. -/
structure Fault where
  code : Option Int
  output : String := ""
  done : Bool
  deriving DecidableEq, Repr

/-- Tools, and what is planned for the commands to come: for each of them a failure or none. -/
structure Faulty (τ : Type) where
  tools : τ
  plan : List (Option Fault) := []

variable {τ α β ε : Type}

/-- Tools of which commands fail as planned. A code that the command may end with without having failed is no failure. -/
def Toolbox.faulty (tools : Toolbox τ) (meaningful : Command → List Int) : Toolbox (Faulty τ) where
  run c t :=
    let (o, u) := tools.run c t.tools
    match t.plan with
    | some f :: plan =>
      if ∃ n ∈ meaningful c, f.code = some n then (o, ⟨u, plan⟩)
      else (⟨f.code, f.output⟩, ⟨if f.done then u else t.tools, plan⟩)
    | plan => (o, ⟨u, plan.tail⟩)

variable (tools : Toolbox τ) (meaningful : Command → List Int)

/-- A command runs as ever, or fails with nothing done or all done. -/
theorem Toolbox.faulty_cases (c : Command) (t : Faulty τ) : ∃ plan,
    (tools.faulty meaningful).run c t = ((tools.run c t.tools).1, ⟨(tools.run c t.tools).2, plan⟩) ∨
      ∃ o u, (∀ n ∈ meaningful c, o.code ≠ some n) ∧ (u = t.tools ∨ u = (tools.run c t.tools).2) ∧
        (tools.faulty meaningful).run c t = (o, ⟨u, plan⟩) := by
  obtain ⟨t, plan⟩ := t
  unfold Toolbox.faulty
  cases plan with
  | nil => exact ⟨[], Or.inl rfl⟩
  | cons f plan =>
    refine ⟨plan, ?_⟩
    cases f with
    | none => exact Or.inl rfl
    | some f =>
      dsimp only
      split
      · exact Or.inl rfl
      · rename_i hcode
        refine Or.inr ⟨⟨f.code, f.output⟩, _, fun n hn heq => hcode ⟨n, hn, heq⟩, ?_, rfl⟩
        cases f.done with
        | false => exact Or.inl rfl
        | true => exact Or.inr rfl

namespace HostTask

/-- The task that runs one command and reads its outcome. -/
def command (c : Command) (read : CommandOutput → Except MountError α) : HostTask α := do
  ofExcept (read (← askHost (.run c)))

end HostTask

namespace Scene

/-- The scene with a plan of failures. -/
def planned (s : Scene τ) (plan : List (Option Fault)) : Scene (Faulty τ) := s.withTools ⟨s.tools, plan⟩

/-- The scene without what is left of a plan. -/
def real (s : Scene (Faulty τ)) : Scene τ := s.withTools s.tools.tools

@[simp]
theorem real_planned (s : Scene τ) (plan : List (Option Fault)) : (s.planned plan).real = s := rfl

/-- An attempt at the task can end so. -/
def Attempt (t : ExceptT ε (Program VolumeDriver.host) α) (s : Scene τ) (r : Except ε α) (v : Scene τ) : Prop :=
  ∃ plan w, (s.planned plan).outcome (tools.faulty meaningful) t = (r, w) ∧ w.real = v

/-! ## How an attempt can end -/

section Ends

variable {tools meaningful} {s v : Scene τ}

/-- One of two tasks in a row was the last. -/
theorem Attempt.of_bind {t : ExceptT ε (Program VolumeDriver.host) α} {f : α → ExceptT ε (Program VolumeDriver.host) β}
    {r : Except ε β} (h : Attempt tools meaningful (t >>= f) s r v) :
    (∃ e, r = .error e ∧ Attempt tools meaningful t s (.error e) v) ∨
      ∃ x u, Attempt tools meaningful t s (.ok x) u ∧ Attempt tools meaningful (f x) u r v := by
  obtain ⟨plan, w, hrun, hreal⟩ := h
  rw [outcome_bind] at hrun
  rcases ht : (s.planned plan).outcome (tools.faulty meaningful) t with ⟨e | x, u⟩
  · rw [ht] at hrun
    cases hrun
    exact Or.inl ⟨e, rfl, plan, _, ht, hreal⟩
  · rw [ht] at hrun
    exact Or.inr ⟨x, u.real, ⟨plan, u, ht, rfl⟩, u.tools.plan, w, hrun, hreal⟩

/-- An attempt at a task of a host is one at the task, as part of a publication. -/
theorem Attempt.of_onHost {t : HostTask α} {r : Except PublishError α}
    (h : Attempt tools meaningful (Publication.onHost t) s r v) :
    ∃ r', r = r'.mapError .mount ∧ Attempt tools meaningful t s r' v := by
  obtain ⟨plan, w, hrun, hreal⟩ := h
  rw [outcome_onHost] at hrun
  cases hrun
  exact ⟨_, rfl, plan, _, rfl, hreal⟩

/-- Of a task that runs no command, nothing can fail. -/
theorem Attempt.of_quiet {t : ExceptT ε (Program VolumeDriver.host) α} (ht : Quiet t) {r : Except ε α}
    (h : Attempt tools meaningful t s r v) : s.outcome tools t = (r, v) := by
  obtain ⟨plan, w, hrun, rfl⟩ := h
  rw [planned, outcome_of_quiet tools ht] at hrun
  cases hrun
  exact outcome_of_quiet tools ht tools s.tools s

/-- A command comes to what is read from its outcome, and leaves what the tools leave. -/
theorem outcome_command (c : Command) (read : CommandOutput → Except MountError α) (s : Scene τ) :
    s.outcome tools (command c read) = (read (tools.run c s.tools).1, s.withTools (tools.run c s.tools).2) := rfl

/-- A command that is read as failed if its code means nothing else. -/
theorem Attempt.of_command {c : Command} {read : CommandOutput → Except MountError α}
    (hread : ∀ o, (∀ n ∈ meaningful c, o.code ≠ some n) → ∃ e, read o = .error e) {r : Except MountError α}
    (h : Attempt tools meaningful (command c read) s r v) :
    s.outcome tools (command c read) = (r, v) ∨
      ∃ e, r = .error e ∧ (v = s ∨ v = s.withTools (tools.run c s.tools).2) := by
  obtain ⟨plan, w, hrun, rfl⟩ := h
  rw [outcome_command] at hrun
  obtain ⟨plan', hcase | ⟨o, u, hcode, hu, hcase⟩⟩ := tools.faulty_cases meaningful c (s.planned plan).tools
  · rw [hcase] at hrun
    cases hrun
    exact Or.inl rfl
  · rw [hcase] at hrun
    cases hrun
    obtain ⟨e, he⟩ := hread o hcode
    refine Or.inr ⟨e, he, ?_⟩
    rcases hu with rfl | rfl
    · exact Or.inl rfl
    · exact Or.inr rfl

/-- In an attempt every call does nothing, or what it does if nothing fails. -/
theorem real_answer_faulty (c : HostCall) (w : Scene (Faulty τ)) :
    (w.answer (tools.faulty meaningful) c).2.real = w.real ∨
      (w.answer (tools.faulty meaningful) c).2.real = (w.real.answer tools c).2 := by
  by_cases hc : c.Runs fun _ => False
  · have hfaulty := answer_withTools tools hc (tools.faulty meaningful) w.tools w.real
    have hreal := answer_withTools tools hc tools w.real.tools w.real
    exact Or.inr ((congrArg (fun x => x.2.real) hfaulty).trans (congrArg (·.2) hreal).symm)
  · cases c with
    | run c =>
      rw [answer_run, answer_run]
      obtain ⟨plan, hcase | ⟨o, u, _, rfl | rfl, hcase⟩⟩ := tools.faulty_cases meaningful c w.tools
      · rw [hcase]
        exact Or.inr rfl
      · rw [hcase]
        exact Or.inl rfl
      · rw [hcase]
        exact Or.inr rfl
    | _ => exact absurd trivial hc

/-- What every call of a task keeps, an attempt keeps. -/
theorem Attempt.preserves {Q : HostCall → Prop} {P : Scene τ → Prop} {t : ExceptT ε (Program VolumeDriver.host) α}
    (ht : Only (I := VolumeDriver.host) Q t.run) (hstep : ∀ c u, Q c → P u → P (u.answer tools c).2) {r : Except ε α}
    (h : Attempt tools meaningful t s r v) (hs : P s) : P v := by
  obtain ⟨plan, w, hrun, rfl⟩ := h
  have hfaulty : ∀ (c : HostCall) (w : Scene (Faulty τ)), Q c → P w.real →
      P (w.answer (tools.faulty meaningful) c).2.real := by
    intro c w hc hw
    rcases real_answer_faulty c w with heq | heq
    · rwa [heq]
    · rw [heq]
      exact hstep c w.real hc hw
  have hkept := run_preserves (P := fun w : Scene (Faulty τ) => P w.real) hfaulty ht (s := s.planned plan) hs
  rw [← outcome, hrun] at hkept
  exact hkept

/-- A task that runs commands alone changes the tools alone. -/
theorem Attempt.of_commands {t : ExceptT ε (Program VolumeDriver.host) α}
    (ht : Only (I := VolumeDriver.host) (fun c => ∃ d, c = .run d) t.run) {r : Except ε α}
    (h : Attempt tools meaningful t s r v) : v = s.withTools v.tools := by
  refine h.preserves (P := fun u => u = s.withTools u.tools) ht ?_ rfl
  rintro _ u ⟨d, rfl⟩ hu
  rw [answer_run, hu]
  rfl

end Ends

/-- If nothing is planned, nothing fails. -/
theorem outcome_planned_nil (t : ExceptT ε (Program VolumeDriver.host) α) (s : Scene τ) :
    (s.planned []).outcome (tools.faulty meaningful) t = ((s.outcome tools t).1, (s.outcome tools t).2.planned []) := by
  refine run_image (fun u : Scene τ => u.planned []) (fun c u _ => ?_) (only_true t.run) s
  by_cases hc : c.Runs fun _ => False
  · rw [planned, answer_withTools tools hc, planned, tools_answer tools hc]
  · cases c with
    | run c => rfl
    | _ => exact absurd trivial hc

/-! ## Tasks that resume -/

/-- Attempts at the task that are cut short make no difference to one that is not. -/
structure Resumes (t : ExceptT ε (Program VolumeDriver.host) α) (s : Scene τ) : Prop where
  completes : ∀ x v, Attempt tools meaningful t s (.ok x) v → s.outcome tools t = (.ok x, v)
  resumes : ∀ e v, Attempt tools meaningful t s (.error e) v → v.outcome tools t = s.outcome tools t

/-- The task is done or not begun: an attempt at it that fails leaves the scene as it was, or as the task makes it. -/
structure Atomic (t : ExceptT ε (Program VolumeDriver.host) α) (s : Scene τ) : Prop where
  completes : ∀ x v, Attempt tools meaningful t s (.ok x) v → s.outcome tools t = (.ok x, v)
  fails : ∀ e v, Attempt tools meaningful t s (.error e) v → v = s ∨ ∃ x, s.outcome tools t = (.ok x, v)

/-- The task finds something out and does nothing. -/
def Looks (t : ExceptT ε (Program VolumeDriver.host) α) (s : Scene τ) : Prop :=
  ∀ r v, Attempt tools meaningful t s r v → v = s ∧ ∀ x, r = .ok x → s.outcome tools t = (.ok x, s)

/-- Tools show whether the task was done, and then it does nothing. -/
structure Settles (t : ExceptT ε (Program VolumeDriver.host) Unit) (done : τ → Prop) : Prop where
  settled : ∀ s : Scene τ, done s.tools → s.outcome tools t = (.ok (), s)
  done_of_ok : ∀ (s : Scene τ) v, s.outcome tools t = (.ok (), v) → done v.tools

section Resuming

variable {tools meaningful} {s : Scene τ} {t : ExceptT ε (Program VolumeDriver.host) α}
  {f : α → ExceptT ε (Program VolumeDriver.host) β}

theorem Atomic.pure (a : α) : Atomic tools meaningful (Pure.pure a : ExceptT ε (Program VolumeDriver.host) α) s where
  completes _ _ h := h.of_quiet (quiet_pure a)
  fails e v h := by cases h.of_quiet (quiet_pure a)

theorem Atomic.throw (e : ε) : Atomic tools meaningful (MonadExcept.throw e : ExceptT ε (Program VolumeDriver.host) α) s where
  completes _ _ h := h.of_quiet (quiet_throw e)
  fails _ v h := by
    cases h.of_quiet (quiet_throw e)
    exact Or.inl rfl

/-- A command that cannot fail by itself. -/
theorem Atomic.command {c : Command} {read : CommandOutput → Except MountError α}
    (hread : ∀ o, (∀ n ∈ meaningful c, o.code ≠ some n) → ∃ e, read o = .error e) {a : α}
    (hok : read (tools.run c s.tools).1 = .ok a) : Atomic tools meaningful (HostTask.command c read) s where
  completes x v h := by
    rcases h.of_command hread with h | ⟨e, he, _⟩
    · exact h
    · nomatch he
  fails e v h := by
    rcases h.of_command hread with h | ⟨e, _, rfl | rfl⟩
    · rw [outcome_command, hok] at h
      cases h
    · exact Or.inl rfl
    · exact Or.inr ⟨a, by rw [outcome_command, hok]⟩

theorem Atomic.onHost {t : HostTask α} (ht : Atomic tools meaningful t s) :
    Atomic tools meaningful (Publication.onHost t) s where
  completes x v h := by
    obtain ⟨_ | y, hr, ha⟩ := h.of_onHost
    · nomatch hr
    · cases hr
      rw [outcome_onHost, ht.completes _ v ha]
      rfl
  fails e v h := by
    obtain ⟨d | y, hr, ha⟩ := h.of_onHost
    · rcases ht.fails d v ha with rfl | ⟨x, hx⟩
      · exact Or.inl rfl
      · exact Or.inr ⟨x, by rw [outcome_onHost, hx]; rfl⟩
    · nomatch hr

theorem Resumes.onHost {t : HostTask α} (ht : Resumes tools meaningful t s) :
    Resumes tools meaningful (Publication.onHost t) s where
  completes x v h := by
    obtain ⟨_ | y, hr, ha⟩ := h.of_onHost
    · nomatch hr
    · cases hr
      rw [outcome_onHost, ht.completes _ v ha]
      rfl
  resumes e v h := by
    obtain ⟨d | y, hr, ha⟩ := h.of_onHost
    · rw [outcome_onHost, outcome_onHost, ht.resumes d v ha]
    · nomatch hr

/-- A task that runs no command and, as it fails, does nothing. -/
theorem Resumes.of_quiet (ht : Quiet t) (hfails : ∀ e v, s.outcome tools t = (.error e, v) → v = s) :
    Resumes tools meaningful t s where
  completes _ _ h := h.of_quiet ht
  resumes e v h := by rw [hfails e v (h.of_quiet ht)]

/-- Two tasks in a row, if an attempt at the second that fails leaves the first done. -/
theorem Resumes.bind {done : τ → Prop} {t : ExceptT ε (Program VolumeDriver.host) Unit}
    {rest : ExceptT ε (Program VolumeDriver.host) α} (ht : Resumes tools meaningful t s) (hsettles : Settles tools t done)
    (hrest : ∀ u : Scene τ, done u.tools → Resumes tools meaningful rest u)
    (hkeeps : ∀ (u : Scene τ) e v, done u.tools → Attempt tools meaningful rest u (.error e) v → done v.tools) :
    Resumes tools meaningful (t >>= fun _ => rest) s where
  completes y v h := by
    rcases h.of_bind with ⟨e, he, _⟩ | ⟨x, u, hx, hy⟩
    · nomatch he
    · have hfirst := ht.completes x u hx
      rw [outcome_bind, hfirst]
      exact (hrest u (hsettles.done_of_ok s u hfirst)).completes y v hy
  resumes e v h := by
    rcases h.of_bind with ⟨e, _, he⟩ | ⟨x, u, hx, hy⟩
    · rw [outcome_bind, outcome_bind, ht.resumes e v he]
    · have hfirst := ht.completes x u hx
      have hdone := hsettles.done_of_ok s u hfirst
      rw [outcome_bind, outcome_bind, hsettles.settled v (hkeeps u e v hdone hy), hfirst]
      exact (hrest u hdone).resumes e v hy

/-- A task that looks first, and then is done or not begun. -/
theorem Resumes.guarded {done : τ → Prop} {f : α → ExceptT ε (Program VolumeDriver.host) Unit}
    (hlooks : Looks tools meaningful t s)
    (hatomic : ∀ x, s.outcome tools t = (.ok x, s) → Atomic tools meaningful (f x) s)
    (hsettles : Settles tools (t >>= f) done) : Resumes tools meaningful (t >>= f) s where
  completes y v h := by
    rcases h.of_bind with ⟨e, he, _⟩ | ⟨x, u, hx, hy⟩
    · nomatch he
    · obtain ⟨rfl, hsame⟩ := hlooks _ _ hx
      rw [outcome_bind, hsame x rfl]
      exact (hatomic x (hsame x rfl)).completes y v hy
  resumes e v h := by
    rcases h.of_bind with ⟨e, _, he⟩ | ⟨x, u, hx, hy⟩
    · rw [(hlooks _ _ he).1]
    · obtain ⟨rfl, hsame⟩ := hlooks _ _ hx
      rcases (hatomic x (hsame x rfl)).fails e v hy with rfl | ⟨y, hdone⟩
      · rfl
      · have hwhole : u.outcome tools (t >>= f) = (.ok y, v) := by
          rw [outcome_bind, hsame x rfl]
          exact hdone
        rw [hwhole, hsettles.settled v (hsettles.done_of_ok u v hwhole)]

/-- To look by a command that changes nothing. -/
theorem Looks.command {c : Command} {read : CommandOutput → Except MountError α}
    (hread : ∀ o, (∀ n ∈ meaningful c, o.code ≠ some n) → ∃ e, read o = .error e)
    (hkeeps : (tools.run c s.tools).2 = s.tools) : Looks tools meaningful (HostTask.command c read) s := by
  intro r v h
  have hsame : s.withTools (tools.run c s.tools).2 = s := by rw [hkeeps]; rfl
  rcases h.of_command hread with h | ⟨e, rfl, rfl | rfl⟩
  · rw [outcome_command, hsame] at h
    cases h
    refine ⟨rfl, fun x hx => ?_⟩
    rw [outcome_command, hsame, hx]
  · exact ⟨rfl, nofun⟩
  · exact ⟨hsame, nofun⟩

theorem Looks.onHost {t : HostTask α} (ht : Looks tools meaningful t s) :
    Looks tools meaningful (Publication.onHost t) s := by
  intro r v h
  obtain ⟨_ | y, rfl, ha⟩ := h.of_onHost
  · exact ⟨(ht _ _ ha).1, nofun⟩
  · obtain ⟨rfl, hsame⟩ := ht _ _ ha
    refine ⟨rfl, fun x hx => ?_⟩
    cases hx
    rw [outcome_onHost, hsame y rfl]
    rfl

theorem Settles.onHost {done : τ → Prop} {t : HostTask Unit} (ht : Settles tools t done) :
    Settles tools (Publication.onHost t) done where
  settled u hu := by
    rw [outcome_onHost, ht.settled u hu]
    rfl
  done_of_ok u v h := by
    rw [outcome_onHost] at h
    rcases ho : u.outcome tools t with ⟨_ | _, w⟩
    · rw [ho] at h
      nomatch h
    · rw [ho] at h
      cases h
      exact ht.done_of_ok u _ ho

/-- What every command of a task keeps, an attempt keeps. -/
theorem Attempt.keeps {P : τ → Prop} (ht : Only (HostCall.Runs fun c => ∀ u, P u → P (tools.run c u).2) t.run)
    {r : Except ε α} {v : Scene τ} (h : Attempt tools meaningful t s r v) (hs : P s.tools) : P v.tools := by
  refine h.preserves (P := fun u : Scene τ => P u.tools) ht (fun c u hc hu => ?_) hs
  by_cases hquiet : c.Runs fun _ => False
  · rw [tools_answer tools hquiet]
    exact hu
  · cases c with
    | run c => exact hc u.tools hu
    | _ => exact absurd trivial hquiet

end Resuming

end Scene

/-! ## Hosts -/

namespace MemoryHost

variable {υ : Type} (t : ExceptT ε (Program host) α)

def withTools (s : MemoryHost τ) (t : υ) : MemoryHost υ := ⟨t, s.files, s.entries, s.unmountFailures, s.log⟩

/-- The host after an attempt at a task of which commands fail as planned. -/
def afterAttempt (s : MemoryHost τ) (plan : List (Option Fault)) : MemoryHost τ :=
  let u := ((s.withTools (Faulty.mk s.tools plan)).perform (tools.faulty meaningful) t).2
  u.withTools u.tools.tools

/-- The host after attempts, each with its plan of failures. -/
def afterAttempts (s : MemoryHost τ) (plans : List (List (Option Fault))) : MemoryHost τ :=
  plans.foldl (afterAttempt tools meaningful t) s

/-- An attempt on a host leaves the scene that it leaves on the scene of the host. -/
theorem scene_afterAttempt (s : MemoryHost τ) (plan : List (Option Fault)) :
    (s.afterAttempt tools meaningful t plan).scene =
      ((s.scene.planned plan).outcome (tools.faulty meaningful) t).2.real :=
  (congrArg (fun x => x.2.real) (outcome_scene (tools.faulty meaningful) t (s.withTools (Faulty.mk s.tools plan)))).symm

/-- What a host is left with after an attempt, an attempt on its scene can leave. -/
theorem attempt_afterAttempt (s : MemoryHost τ) (plan : List (Option Fault)) :
    ∃ r, s.scene.Attempt tools meaningful t r (s.afterAttempt tools meaningful t plan).scene :=
  ⟨_, plan, _, rfl, (s.scene_afterAttempt tools meaningful t plan).symm⟩

/-- An attempt of which no command fails does what the task does. -/
theorem scene_afterAttempt_nil (s : MemoryHost τ) :
    (s.afterAttempt tools meaningful t []).scene = (s.scene.outcome tools t).2 := by
  rw [scene_afterAttempt, Scene.outcome_planned_nil, Scene.real_planned]

/-- The last of several attempts comes after all others. -/
theorem afterAttempts_concat (s : MemoryHost τ) (plans : List (List (Option Fault))) (plan : List (Option Fault)) :
    s.afterAttempts tools meaningful t (plans ++ [plan]) =
      (s.afterAttempts tools meaningful t plans).afterAttempt tools meaningful t plan := by
  rw [afterAttempts, List.foldl_append, List.foldl_cons, List.foldl_nil, afterAttempts]

/-- What attempts keep, any number of attempts keep. -/
theorem afterAttempts_preserves {P : Scene τ → Prop} (hstep : ∀ u r v, P u → u.Attempt tools meaningful t r v → P v)
    (plans : List (List (Option Fault))) {s : MemoryHost τ} (hs : P s.scene) :
    P (s.afterAttempts tools meaningful t plans).scene := by
  induction plans generalizing s with
  | nil => exact hs
  | cons plan plans ih =>
    obtain ⟨r, hr⟩ := s.attempt_afterAttempt tools meaningful t plan
    exact ih (hstep s.scene r _ hs hr)

end MemoryHost

end VolumeDriver
