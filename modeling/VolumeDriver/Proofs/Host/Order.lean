import VolumeDriver.Proofs.Host.Attempts

/-!
# The order in which a task does things

What a task exchanges with its host in one run, in order, whatever answers its calls. That something happens only after something
else (`OnlyAfter`), that something never comes after something else (`List.Pairwise`), and that a task fails and does nothing more
once a step of it has failed (`HostTask.StopsAtFailure`) are put together from the parts of a task; what both parts of a task do is
told by `HostTask.bind_cases`.
-/

namespace VolumeDriver

open Program

/-- A call to the host, and what it was replied to. -/
abbrev HostExchange := Exchange host

/-- The codes with which a command may end. A probe may find nothing, and a mapping may be inactive; everything else has to
succeed. -/
def Command.allowedCodes (c : Command) : List Int :=
  if c.program = "blkid" then [0, 2]
  else if c.program = "cryptsetup" ∧ c.args.head? = some "status" then [0, 4]
  else [0]

/-- A step that fails: a command that ends with a code with which it may not, or a command, a mount or an unmount that fails. -/
def HostExchange.Fails : HostExchange → Prop
  | ⟨.run c, .ok o⟩ => ∀ n ∈ c.allowedCodes, o.code ≠ some n
  | ⟨.run _, .error _⟩ | ⟨.mount _, .error _⟩ | ⟨.unmount _ _, .error _⟩ => True
  | _ => False

/-- A command was run, one that `P` holds of. -/
def HostExchange.Is (P : Command → Bool) : HostExchange → Prop
  | ⟨.run c, _⟩ => P c = true
  | _ => False

/-- A command was run and ended with the code. -/
def HostExchange.EndedWith (n : Int) : HostExchange → Prop
  | ⟨.run _, .ok o⟩ => o.code = some n
  | _ => False

/-- The command was run and ended with the code. -/
def HostExchange.Ended (c : Command) (n : Int) (x : HostExchange) : Prop := x.1 = .run c ∧ x.EndedWith n

/-- A call that runs no command of a kind is not a command of it. -/
theorem HostExchange.not_is {P : Command → Bool} {x : HostExchange} (h : x.1.Runs fun c => P c = false) : ¬ x.Is P := by
  obtain ⟨c, reply⟩ := x
  cases c with
  | run c =>
    intro his
    nomatch his.symm.trans h
  | _ => exact id

/-- A command is of a kind if that kind holds of it. -/
theorem HostExchange.is_iff_of_run {P : Command → Bool} {c : Command} {x : HostExchange} (h : x.1 = .run c) :
    x.Is P ↔ P c = true := by
  obtain ⟨_, reply⟩ := x
  subst h
  exact Iff.rfl

/-- Where no command was run, none of a kind was. -/
theorem HostExchange.not_is_of_quiet {P : Command → Bool} {x : HostExchange} (h : x.1.Runs fun _ => False) : ¬ x.Is P := by
  obtain ⟨c, reply⟩ := x
  cases c with
  | run c => exact h.elim
  | _ => exact id

/-- A settled call is no step that fails. -/
theorem HostExchange.Fails.not_settled {x : HostExchange} (h : Fails x) : ¬ x.1.Settled := by
  obtain ⟨c, reply⟩ := x
  cases c with
  | run c => exact id
  | mount m => exact id
  | unmount p patience => exact id
  | _ => exact h.elim

/-- Whenever something that `act` holds of happens, something that `guard` holds of has happened before. -/
def OnlyAfter (guard act : HostExchange → Prop) (xs : List HostExchange) : Prop :=
  ∀ before x after, xs = before ++ x :: after → act x → ∃ y ∈ before, guard y

/-- What `P` holds of, behind what it does not hold of. -/
theorem split_behind {P : HostExchange → Prop} {xs ys before after : List HostExchange} {x : HostExchange}
    (hxs : ∀ y ∈ xs, ¬ P y) (hx : P x) (h : xs ++ ys = before ++ x :: after) :
    ∃ middle, before = xs ++ middle ∧ ys = middle ++ x :: after := by
  rcases List.append_eq_append_iff.1 h with ⟨middle, hbefore, hys⟩ | ⟨middle, rfl, htail⟩
  · exact ⟨middle, hbefore, hys⟩
  · cases middle with
    | nil => exact ⟨[], by simp, htail.symm⟩
    | cons y middle =>
      obtain rfl := (List.cons.inj htail).1
      exact absurd hx (hxs x (by simp))

section OnlyAfter

variable {guard act : HostExchange → Prop} {xs ys : List HostExchange}

/-- What never happens is never early. -/
theorem OnlyAfter.of_not (h : ∀ x ∈ xs, ¬ act x) : OnlyAfter guard act xs := by
  rintro before x after rfl hact
  exact absurd hact (h x (by simp))

/-- Behind steps of which one is of `guard` and none is of `act`, everything is in order. -/
theorem OnlyAfter.of_mem (hxs : ∀ x ∈ xs, ¬ act x) (h : ∃ y ∈ xs, guard y) : OnlyAfter guard act (xs ++ ys) := by
  intro before x after heq hact
  obtain ⟨middle, rfl, _⟩ := split_behind hxs hact heq
  obtain ⟨y, hy, hguard⟩ := h
  exact ⟨y, List.mem_append_left _ hy, hguard⟩

/-- Steps before, among which nothing has to wait, leave the order as it is. -/
theorem OnlyAfter.append (hxs : ∀ x ∈ xs, ¬ act x) (hys : OnlyAfter guard act ys) : OnlyAfter guard act (xs ++ ys) := by
  intro before x after heq hact
  obtain ⟨middle, rfl, htail⟩ := split_behind hxs hact heq
  obtain ⟨y, hy, hguard⟩ := hys middle x after htail hact
  exact ⟨y, List.mem_append_right _ hy, hguard⟩

end OnlyAfter

namespace HostTask

variable {σ α β ε : Type}

/-- The steps of a task, in order: what it exchanges with the host. -/
def steps (answer : (c : HostCall) → σ → Except MountError c.Answer × σ) (t : ExceptT ε (Program host) α) (s : σ) :
    List HostExchange := Program.exchanges (I := host) answer t.run s

/-- What a task comes to. -/
def result (answer : (c : HostCall) → σ → Except MountError c.Answer × σ) (t : ExceptT ε (Program host) α) (s : σ) :
    Except ε α := (Program.run (I := host) answer t.run s).1

/-- The state that a task leaves. -/
def left (answer : (c : HostCall) → σ → Except MountError c.Answer × σ) (t : ExceptT ε (Program host) α) (s : σ) : σ :=
  (Program.run (I := host) answer t.run s).2

variable (answer : (c : HostCall) → σ → Except MountError c.Answer × σ)

/-- A task of two parts ends with a failure of the first, or goes on with the second. -/
theorem bind_cases (t : ExceptT ε (Program host) α) (f : α → ExceptT ε (Program host) β) (s : σ) :
    (∃ e, result answer t s = .error e ∧ result answer (t >>= f) s = .error e ∧
        steps answer (t >>= f) s = steps answer t s) ∨
      ∃ a, result answer t s = .ok a ∧ result answer (t >>= f) s = result answer (f a) (left answer t s) ∧
        steps answer (t >>= f) s = steps answer t s ++ steps answer (f a) (left answer t s) := by
  unfold steps result left
  rw [exchanges_except_bind, run_except_bind]
  rcases Program.run (I := host) answer t.run s with ⟨e | a, s'⟩
  · exact Or.inl ⟨e, rfl, rfl, List.append_nil _⟩
  · exact Or.inr ⟨a, rfl, rfl, rfl⟩

@[simp]
theorem steps_ask (c : HostCall) (s : σ) : steps answer (askHost c) s = [⟨c, (answer c s).1⟩] := rfl

@[simp]
theorem result_ask (c : HostCall) (s : σ) : result answer (askHost c) s = (answer c s).1 := rfl

@[simp]
theorem steps_ofExcept (r : Except MountError α) (s : σ) : steps answer (ofExcept r) s = [] := rfl

@[simp]
theorem result_ofExcept (r : Except MountError α) (s : σ) : result answer (ofExcept r) s = r := rfl

/-- A command with a reader is one step. -/
theorem steps_command (c : Command) (read : CommandOutput → Except MountError α) (s : σ) :
    steps answer (command c read) s = [⟨.run c, (answer (.run c) s).1⟩] := by
  rcases bind_cases answer (askHost (.run c)) (fun o => ofExcept (read o)) s with ⟨_, _, _, h⟩ | ⟨_, _, _, h⟩
  · exact h
  · exact h

/-- A command comes to what is read from its outcome. -/
theorem result_command (c : Command) (read : CommandOutput → Except MountError α) (s : σ) :
    result answer (command c read) s = (answer (.run c) s).1.bind read := by
  rcases bind_cases answer (askHost (.run c)) (fun o => ofExcept (read o)) s with ⟨e, herror, h, _⟩ | ⟨o, hok, h, _⟩
  · exact h.trans (by rw [show (answer (.run c) s).1 = .error e from herror]; rfl)
  · exact h.trans (by rw [show (answer (.run c) s).1 = .ok o from hok]; rfl)

/-- A command whose outcome was read as a success. -/
theorem command_ok {c : Command} {read : CommandOutput → Except MountError α} {a : α} {s : σ}
    (h : result answer (command c read) s = .ok a) :
    ∃ o, steps answer (command c read) s = [⟨.run c, .ok o⟩] ∧ read o = .ok a := by
  rw [result_command] at h
  rw [steps_command]
  cases hreply : (answer (.run c) s).1 with
  | error e =>
    rw [hreply] at h
    nomatch h
  | ok o =>
    rw [hreply] at h
    exact ⟨o, rfl, h⟩

@[simp]
theorem steps_onHost (t : HostTask α) (s : σ) :
    steps answer (Publication.onHost t) s = steps answer t s := by
  show Program.exchanges (I := host) answer (Program.bind t.run _) s = _
  rw [exchanges_bind]
  rcases hrun : Program.run (I := host) answer t.run s with ⟨_ | a, s'⟩ <;> simp [steps]

@[simp]
theorem result_onHost (t : HostTask α) (s : σ) :
    result answer (Publication.onHost t) s = (result answer t s).mapError .mount :=
  congrArg Prod.fst (Publication.run_onHost answer t s)

/-- A task that succeeds as part of a publication succeeds on its own. -/
theorem ok_of_onHost {t : HostTask α} {a : α} {s : σ} (h : result answer (Publication.onHost t) s = .ok a) :
    result answer t s = .ok a := by
  rw [result_onHost] at h
  cases hresult : result answer t s with
  | error e =>
    rw [hresult] at h
    nomatch h
  | ok b =>
    rw [hresult] at h
    exact congrArg _ (Except.ok.inj h)

/-- The calls of a run are calls that the task can make. -/
theorem of_mem_steps {Q : HostCall → Prop} {t : ExceptT ε (Program host) α} (ht : Only (I := host) Q t.run) (s : σ) :
    ∀ x ∈ steps answer t s, Q x.1 :=
  Only.exchanges ht answer s

@[simp]
theorem left_onHost (t : HostTask α) (s : σ) : left answer (Publication.onHost t) s = left answer t s :=
  congrArg Prod.snd (Publication.run_onHost answer t s)

/-- The steps of a task that can run no command of a kind are not of that kind. -/
theorem not_is_of_mem {P : Command → Bool} {t : ExceptT ε (Program host) α}
    (ht : Only (I := host) (HostCall.Runs fun c => P c = false) t.run) (s : σ) : ∀ x ∈ steps answer t s, ¬ x.Is P :=
  fun x hx => HostExchange.not_is (of_mem_steps answer ht s x hx)

/-! ## Commands that never come after others -/

/-- A command of the second kind never comes after one of the first. -/
def NeverAfter (P Q : Command → Bool) (t : ExceptT ε (Program host) α) : Prop :=
  ∀ s, (steps answer t s).Pairwise fun x y => x.Is P → ¬ y.Is Q

section NeverAfter

variable {answer} {P Q : Command → Bool} {t : ExceptT ε (Program host) α} {f : α → ExceptT ε (Program host) β}

/-- A task without commands of the first kind has none of the second after them. -/
theorem never_of_left (h : Only (I := host) (HostCall.Runs fun c => P c = false) t.run) : NeverAfter answer P Q t :=
  fun s => List.pairwise_of_forall_mem_list fun x hx _ _ hP => absurd hP (not_is_of_mem answer h s x hx)

/-- A task without commands of the second kind has none after the first. -/
theorem never_of_right (h : Only (I := host) (HostCall.Runs fun c => Q c = false) t.run) : NeverAfter answer P Q t :=
  fun s => List.pairwise_of_forall_mem_list fun _ _ y hy _ => not_is_of_mem answer h s y hy

/-- Of two tasks in a row, each in order, one at least has to be without the commands that could come wrong. -/
theorem never_bind (ht : NeverAfter answer P Q t) (hf : ∀ a, NeverAfter answer P Q (f a))
    (h : Only (I := host) (HostCall.Runs fun c => P c = false) t.run ∨
      ∀ a, Only (I := host) (HostCall.Runs fun c => Q c = false) (f a).run) : NeverAfter answer P Q (t >>= f) := by
  intro s
  rcases bind_cases answer t f s with ⟨e, _, _, hsteps⟩ | ⟨a, _, _, hsteps⟩ <;> rw [hsteps]
  · exact ht s
  · refine List.pairwise_append.2 ⟨ht s, hf a _, fun x hx y hy hP => ?_⟩
    rcases h with h | h
    · exact absurd hP (not_is_of_mem answer h s x hx)
    · exact not_is_of_mem answer (h a) _ y hy

end NeverAfter

/-! ## Tasks that stop at the first failure -/

/-- Once a step has failed, the task runs no further command, neither mounts nor unmounts, and comes to an error. -/
structure StopsAtFailure (t : ExceptT ε (Program host) α) : Prop where
  stops : ∀ s, (steps answer t s).Pairwise fun x y => x.Fails → y.1.Settled
  fails : ∀ s, (∃ x ∈ steps answer t s, x.Fails) → ∃ e, result answer t s = .error e

variable {answer}

/-- A task of settled calls has no step that fails. -/
theorem stops_of_settled {t : ExceptT ε (Program host) α} (h : Only (I := host) HostCall.Settled t.run) :
    StopsAtFailure answer t where
  stops s := by
    refine List.pairwise_of_forall_mem_list fun x _ y hy _ => ?_
    exact of_mem_steps answer h s y hy
  fails s := by
    rintro ⟨x, hx, hfails⟩
    exact absurd (of_mem_steps answer h s x hx) hfails.not_settled

/-- Two tasks in a row stop at a failure if both do: the second is not begun if the first has failed. -/
theorem stops_bind {t : ExceptT ε (Program host) α} {f : α → ExceptT ε (Program host) β} (ht : StopsAtFailure answer t)
    (hf : ∀ a, StopsAtFailure answer (f a)) : StopsAtFailure answer (t >>= f) where
  stops s := by
    rcases bind_cases answer t f s with ⟨e, _, _, hsteps⟩ | ⟨a, hok, _, hsteps⟩ <;> rw [hsteps]
    · exact ht.stops s
    · refine List.pairwise_append.2 ⟨ht.stops s, (hf a).stops _, fun x hx y _ hfails => ?_⟩
      -- a first part with a step that failed does not get this far
      obtain ⟨e, herror⟩ := ht.fails s ⟨x, hx, hfails⟩
      nomatch hok.symm.trans herror
  fails s := by
    rintro ⟨x, hx, hfails⟩
    rcases bind_cases answer t f s with ⟨e, _, herror, _⟩ | ⟨a, hok, hresult, hsteps⟩
    · exact ⟨e, herror⟩
    · rw [hsteps] at hx
      rw [hresult]
      rcases List.mem_append.1 hx with hx | hx
      · obtain ⟨e, herror⟩ := ht.fails s ⟨x, hx, hfails⟩
        nomatch hok.symm.trans herror
      · exact (hf a).fails _ ⟨x, hx, hfails⟩

/-- A call that runs no command fails with its step. -/
theorem stops_ask {c : HostCall} (h : ∀ d, c ≠ .run d := by rintro _ ⟨⟩) : StopsAtFailure answer (askHost c) where
  stops s := List.pairwise_singleton _ _
  fails s := by
    rintro ⟨x, hx, hfails⟩
    obtain rfl : x = ⟨c, (answer c s).1⟩ := List.mem_singleton.1 hx
    rw [result_ask]
    cases hreply : (answer c s).1 with
    | error e => exact ⟨e, rfl⟩
    | ok a =>
      rw [hreply] at hfails
      cases c with
      | run d => exact absurd rfl (h d)
      | _ => exact hfails.elim

/-- A command that reads a code with which it may not end as an error. -/
theorem stops_command {c : Command} {read : CommandOutput → Except MountError α}
    (h : ∀ o, (∀ n ∈ c.allowedCodes, o.code ≠ some n) → ∃ e, read o = .error e) : StopsAtFailure answer (command c read) where
  stops s := by
    rw [steps_command]
    exact List.pairwise_singleton _ _
  fails s := by
    rintro ⟨x, hx, hfails⟩
    rw [steps_command, List.mem_singleton] at hx
    subst hx
    rw [result_command]
    cases hreply : (answer (.run c) s).1 with
    | error e => exact ⟨e, rfl⟩
    | ok o =>
      rw [hreply] at hfails
      exact h o hfails

theorem stops_onHost {t : HostTask α} (h : StopsAtFailure answer t) : StopsAtFailure answer (Publication.onHost t) where
  stops s := by
    rw [steps_onHost]
    exact h.stops s
  fails s hx := by
    rw [steps_onHost] at hx
    obtain ⟨e, herror⟩ := h.fails s hx
    rw [result_onHost, herror]
    exact ⟨.mount e, rfl⟩

end HostTask

end VolumeDriver
