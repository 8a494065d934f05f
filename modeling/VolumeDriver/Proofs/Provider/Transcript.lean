import VolumeDriver.Gateway.Provider
import VolumeDriver.Proofs.Program

/-!
# What passes between a gateway call and the provider

A gateway call makes provider calls and polls actions. Its transcript are the provider calls that it made, polls included, each
with its reply (`Session.transcript`). Which transcripts a program can have, whatever the client replies, is told by its tree
(`Conducts`); waiting for an action adds the polls of the action, which end with the first reply that is not `running`
(`Polls`). Every run has such a transcript, and answers as it says (`Session.conducts_run`).
-/

namespace VolumeDriver

open Program

variable {σ α β : Type}

/-- A call of the provider with its reply; every call may fail. -/
abbrev ProviderExchange := (c : ProviderCall) × Except ProviderError c.Answer

/-- The client that also keeps its exchanges. -/
def ProviderClient.recorded (client : ProviderClient σ) : ProviderClient (σ × List ProviderExchange) where
  answer c s := ((client.answer c s.1).1, (client.answer c s.1).2, s.2 ++ [⟨c, (client.answer c s.1).1⟩])
  patience s := client.patience s.1
  patience_lt id s := client.patience_lt id s.1

namespace Provider

/-! ## What a program can exchange -/

/-- The exchanges with which an action is polled, and what comes of it; nothing, if the caller goes away. -/
inductive Polls (policy : Policy) (id : ActionId) : List ProviderExchange → Option (Except ProviderError Unit) → Prop
  | refused (e : ProviderError) : Polls policy id [⟨.getAction id, .error e⟩] (some (.error e))
  | succeeded (a : Action) (h : a.status = .success) : Polls policy id [⟨.getAction id, .ok a⟩] (some (.ok ()))
  | failed (a : Action) (e : ProviderError) (h : a.status = .failed e) :
      Polls policy id [⟨.getAction id, .ok a⟩] (some (.error e))
  | gaveUp (a : Action) (h : a.status = .running) (limited : policy.maxWait ≠ none) :
      Polls policy id [⟨.getAction id, .ok a⟩] (some (.error (Session.unfinished id)))
  | abandoned (a : Action) (h : a.status = .running) : Polls policy id [⟨.getAction id, .ok a⟩] none
  | again (a : Action) (h : a.status = .running) {xs : List ProviderExchange} {r : Option (Except ProviderError Unit)}
      (rest : Polls policy id xs r) : Polls policy id (⟨.getAction id, .ok a⟩ :: xs) r

/-- The exchanges while an action is waited for. One that is not running is not polled. -/
inductive Awaits (policy : Policy) (a : Action) : List ProviderExchange → Option (Except ProviderError Unit) → Prop
  | succeeded (h : a.status = .success) : Awaits policy a [] (some (.ok ()))
  | failed (e : ProviderError) (h : a.status = .failed e) : Awaits policy a [] (some (.error e))
  | polled (h : a.status = .running) {xs : List ProviderExchange} {r : Option (Except ProviderError Unit)}
      (polls : Polls policy a.id xs r) : Awaits policy a xs r

/-- The exchanges that a program can have, whatever the client replies, and what comes of it; nothing, if the caller goes away
during a pause. -/
def Conducts (policy : Policy) : Program tasks α → List ProviderExchange → Option α → Prop
  | .done a, xs, r => xs = [] ∧ r = some a
  | .call (.client c) next, xs, r => ∃ reply rest, xs = ⟨c, reply⟩ :: rest ∧ Conducts policy (next reply) rest r
  | .call (.pause _) next, xs, r => (xs = [] ∧ r = none) ∨ Conducts policy (next ()) xs r
  | .call (.await a) next, xs, r =>
    (Awaits policy a xs none ∧ r = none) ∨
      ∃ outcome polls rest, xs = polls ++ rest ∧ Awaits policy a polls (some outcome) ∧ Conducts policy (next outcome) rest r

namespace Session

/-! ## Recorded sessions -/

/-- The session, recorded from here on. -/
def record (s : Session σ) : Session (σ × List ProviderExchange) := { s with client := (s.client, []) }

/-- The session without its record. -/
def forget (s : Session (σ × List ProviderExchange)) : Session σ := { s with client := s.client.1 }

/-- The second session is the first, some exchanges later. -/
structure Later (s t : Session (σ × List ProviderExchange)) (xs : List ProviderExchange) : Prop where
  record_eq : t.client.2 = s.client.2 ++ xs
  calls_eq : t.calls = s.calls ++ xs.map (·.1)

namespace Later

variable {s t u : Session (σ × List ProviderExchange)} {xs ys : List ProviderExchange}

theorem refl (s : Session (σ × List ProviderExchange)) : Later s s [] := ⟨by simp, by simp⟩

theorem trans (h : Later s t xs) (h' : Later t u ys) : Later s u (xs ++ ys) where
  record_eq := by rw [h'.record_eq, h.record_eq, List.append_assoc]
  calls_eq := by rw [h'.calls_eq, h.calls_eq, List.map_append, List.append_assoc]

theorem ask {client : ProviderClient σ} {c : ProviderCall} {r : Except ProviderError c.Answer}
    (h : s.ask client.recorded c = (r, t)) : Later s t [⟨c, r⟩] := by
  cases h
  exact ⟨rfl, rfl⟩

theorem pause {time : Nat} (h : s.pause time = some t) : Later s t [] := by
  unfold Session.pause at h
  split at h
  · cases h
    exact refl _
  · split at h
    · cases h
    · cases h
      exact ⟨by simp, by simp⟩

end Later

section Recording

variable (client : ProviderClient σ) (policy : Policy)

/-- A call is replied to in the same way whether the session is recorded or not. -/
theorem ask_forget (c : ProviderCall) (s : Session (σ × List ProviderExchange)) :
    s.forget.ask client c = ((s.ask client.recorded c).1, (s.ask client.recorded c).2.forget) := rfl

/-- A pause is the same whether the session is recorded or not. -/
theorem pause_forget (time : Nat) (s : Session (σ × List ProviderExchange)) :
    s.forget.pause time = (s.pause time).map forget := by
  obtain ⟨client, calls, timeLeft, clock⟩ := s
  cases timeLeft with
  | none => rfl
  | some left =>
    dsimp only [forget, pause]
    split <;> rfl

/-- To watch an action is to poll it, and to go on after a pause if it is still running. -/
theorem watch_eq (id : ActionId) (w : Wait) (s : Session σ) :
    watch client policy id w s =
      match s.ask client (.getAction id) with
      | (.error e, t) => (some (.error e), t)
      | (.ok a, t) =>
        match a.status with
        | .success => (some (.ok ()), t)
        | .failed e => (some (.error e), t)
        | .running =>
          if policy.givesUp w then (some (.error (unfinished id)), t)
          else
            match t.pause (leastPause w.interval) with
            | none => (none, t)
            | some u => watch client policy id (policy.nextWait s.clock w) u := by
  rw [watch]
  split <;> rename_i hask <;> rw [hask]
  dsimp only
  split <;> rename_i hstatus <;> rw [hstatus]
  dsimp only
  split
  · rfl
  · split <;> rename_i hpause <;> rw [hpause]

/-- To watch an action comes to the same whether the session is recorded or not. -/
theorem watch_forget (id : ActionId) (w : Wait) (s : Session (σ × List ProviderExchange)) :
    watch client policy id w s.forget =
      ((watch client.recorded policy id w s).1, (watch client.recorded policy id w s).2.forget) := by
  fun_induction watch client.recorded policy id w s with
  | case1 w s e t hask =>
    rw [watch_eq, ask_forget, hask]
  | case2 w s a t hask hstatus =>
    rw [watch_eq, ask_forget, hask]
    simp only [hstatus]
  | case3 w s a t hask e hstatus =>
    rw [watch_eq, ask_forget, hask]
    simp only [hstatus]
  | case4 w s a t hask hstatus hlimit =>
    rw [watch_eq, ask_forget, hask]
    simp only [hstatus, hlimit, if_true]
  | case5 w s a t hask hstatus hlimit hpause =>
    rw [watch_eq, ask_forget, hask]
    simp only [hstatus, hlimit, if_false, pause_forget, hpause, Option.map_none, Bool.false_eq_true]
  | case6 w s a t hask hstatus hlimit u hpause ih =>
    rw [watch_eq, ask_forget, hask]
    simp only [hstatus, hlimit, if_false, pause_forget, hpause, Option.map_some, Bool.false_eq_true]
    exact ih

/-- Recording a session changes neither its answers nor the session. -/
theorem run_forget (p : Program tasks α) (s : Session (σ × List ProviderExchange)) :
    run client policy p s.forget =
      ((run client.recorded policy p s).1, (run client.recorded policy p s).2.forget) := by
  induction p generalizing s with
  | done a => rfl
  | call task next ih =>
    have hanswer : s.forget.answer client policy task =
        ((s.answer client.recorded policy task).1, (s.answer client.recorded policy task).2.forget) := by
      cases task with
      | client c => rfl
      | pause time =>
        unfold answer
        dsimp only
        rw [pause_forget]
        cases s.pause time <;> rfl
      | await a =>
        unfold answer
        dsimp only
        split
        · rfl
        · rfl
        · exact watch_forget client policy a.id policy.firstWait s
    rw [run, run, hanswer]
    rcases s.answer client.recorded policy task with ⟨_ | r, t⟩
    · rfl
    · exact ih r t

/-- The first part of a program runs, and then the rest, unless the caller has gone away. -/
theorem run_bind (p : Program tasks α) (f : α → Program tasks β) (s : Session σ) :
    run client policy (p.bind f) s =
      match run client policy p s with
      | (none, t) => (none, t)
      | (some a, t) => run client policy (f a) t := by
  induction p generalizing s with
  | done a => rfl
  | call task next ih =>
    rw [call_bind, run, run]
    rcases s.answer client policy task with ⟨_ | r, t⟩
    · rfl
    · exact ih r t

/-! ## Transcripts -/

/-- The exchanges of a program with the client, in order. -/
def transcript (p : Program tasks α) (s : Session σ) : List ProviderExchange :=
  (run client.recorded policy p s.record).2.client.2

/-- The polls of an action are recorded. -/
theorem polls_watch (id : ActionId) (w : Wait) (s : Session (σ × List ProviderExchange)) :
    ∃ xs, Later s (watch client.recorded policy id w s).2 xs ∧
      Polls policy id xs (watch client.recorded policy id w s).1 := by
  fun_induction watch client.recorded policy id w s with
  | case1 w s e t hask => exact ⟨_, .ask hask, .refused e⟩
  | case2 w s a t hask hstatus => exact ⟨_, .ask hask, .succeeded a hstatus⟩
  | case3 w s a t hask e hstatus => exact ⟨_, .ask hask, .failed a e hstatus⟩
  | case4 w s a t hask hstatus hlimit =>
    refine ⟨_, .ask hask, .gaveUp a hstatus ?_⟩
    intro hunlimited
    rw [Policy.givesUp, hunlimited] at hlimit
    nomatch hlimit
  | case5 w s a t hask hstatus hlimit hpause => exact ⟨_, .ask hask, .abandoned a hstatus⟩
  | case6 w s a t hask hstatus hlimit u hpause ih =>
    obtain ⟨xs, hlater, hpolls⟩ := ih
    exact ⟨_, ((Later.ask hask).trans (.pause hpause)).trans hlater, .again a hstatus hpolls⟩

/-- What a run adds to the record is an exchange that its program can have. -/
theorem conducts_recorded (p : Program tasks α) (s : Session (σ × List ProviderExchange)) :
    ∃ xs, Later s (run client.recorded policy p s).2 xs ∧ Conducts policy p xs (run client.recorded policy p s).1 := by
  induction p generalizing s with
  | done a => exact ⟨[], .refl s, rfl, rfl⟩
  | call task next ih =>
    cases task with
    | client c =>
      obtain ⟨xs, hlater, hrest⟩ := ih _ (s.ask client.recorded c).2
      exact ⟨_, (Later.ask rfl).trans hlater, _, xs, rfl, hrest⟩
    | pause time =>
      rw [run, answer]
      cases hpause : s.pause time with
      | none => exact ⟨[], .refl s, Or.inl ⟨rfl, rfl⟩⟩
      | some t =>
        obtain ⟨xs, hlater, hrest⟩ := ih () t
        exact ⟨_, (Later.pause hpause).trans hlater, Or.inr hrest⟩
    | await a =>
      have hawaits : ∃ xs, Later s (s.answer client.recorded policy (.await a)).2 xs ∧
          Awaits policy a xs (s.answer client.recorded policy (.await a)).1 := by
        unfold answer
        dsimp only
        split <;> rename_i hstatus
        · exact ⟨[], .refl s, .succeeded hstatus⟩
        · exact ⟨[], .refl s, .failed _ hstatus⟩
        · obtain ⟨xs, hlater, hpolls⟩ := polls_watch client policy a.id policy.firstWait s
          exact ⟨xs, hlater, .polled hstatus hpolls⟩
      obtain ⟨polls, hlater, hpolls⟩ := hawaits
      rw [run]
      rcases hanswer : s.answer client.recorded policy (.await a) with ⟨_ | outcome, t⟩
      · rw [hanswer] at hlater hpolls
        exact ⟨polls, hlater, Or.inl ⟨hpolls, rfl⟩⟩
      · rw [hanswer] at hlater hpolls
        obtain ⟨rest, hrest, hconducts⟩ := ih outcome t
        exact ⟨_, hlater.trans hrest, Or.inr ⟨outcome, polls, rest, rfl, hpolls, hconducts⟩⟩

/-- A run answers and exchanges what its program can, and its log has the calls of the transcript. -/
theorem conducts_run (p : Program tasks α) (s : Session σ) :
    Conducts policy p (transcript client policy p s) (run client policy p s).1 ∧
      (run client policy p s).2.calls = s.calls ++ (transcript client policy p s).map (·.1) := by
  obtain ⟨xs, hlater, hconducts⟩ := conducts_recorded client policy p s.record
  have hrecord : transcript client policy p s = xs := hlater.record_eq
  have hrun : run client policy p s = _ := run_forget client policy p s.record
  rw [hrecord, hrun]
  exact ⟨hconducts, hlater.calls_eq⟩

end Recording

end Session

end Provider

end VolumeDriver
