import VolumeDriver.Proofs.Provider.Transcript

/-!
# How long an action is polled

A reply to a poll says that the action is still running, or it decides what comes of it (`Decides`). Without a bound on the wait, and as
long as the caller stays, an action is polled through all replies that it is running up to the first that decides, whose verdict is the
answer, and not once more (`Session.watch_of_first`). There is such a reply, since no client reports an action as running for ever. An
action that is decided when it is handed over is not polled at all (`Session.await_stops`). With a bound, the pauses between the polls
never add up to it (`Session.await_within_limit`).
-/

namespace VolumeDriver

variable {σ : Type}

namespace ProviderClient

variable (client : ProviderClient σ) (id : ActionId)

/-- The client after so many polls of an action. -/
def afterPolls : Nat → σ → σ
  | 0, s => s
  | n + 1, s => afterPolls n (client.answer (.getAction id) s).2

/-- The reply to a poll of an action that so many others came before. -/
def pollReply (n : Nat) (s : σ) : Except ProviderError Action := (client.answer (.getAction id) (client.afterPolls id n s)).1

end ProviderClient

namespace Provider

/-- The reply says that the action is still running. -/
def IsRunning (reply : Except ProviderError Action) : Prop := ∃ a, reply = .ok a ∧ a.status = .running

/-- The reply decides what comes of the action: it succeeded, or failed with an error, or the poll itself ended in one. -/
inductive Decides : Except ProviderError Action → Except ProviderError Unit → Prop where
  | succeeded (a : Action) (h : a.status = .success) : Decides (.ok a) (.ok ())
  | failed (a : Action) (e : ProviderError) (h : a.status = .failed e) : Decides (.ok a) (.error e)
  | refused (e : ProviderError) : Decides (.error e) (.error e)

/-- Every reply to a poll says that the action is running, or decides. -/
theorem isRunning_or_decides (reply : Except ProviderError Action) : IsRunning reply ∨ ∃ v, Decides reply v := by
  cases reply with
  | error e => exact .inr ⟨_, .refused e⟩
  | ok a =>
    cases h : a.status with
    | running => exact .inl ⟨a, rfl, h⟩
    | success => exact .inr ⟨_, .succeeded a h⟩
    | failed e => exact .inr ⟨_, .failed a e h⟩

/-- The poll so many others came before has the first reply that decides, and this is what it decides. -/
structure FirstVerdict (client : ProviderClient σ) (id : ActionId) (s : σ) (n : Nat) (v : Except ProviderError Unit) : Prop where
  running : ∀ k < n, IsRunning (client.pollReply id k s)
  decides : Decides (client.pollReply id n s) v

/-- A client comes to decide: each reply that the action is running costs it patience. -/
theorem exists_firstVerdict (client : ProviderClient σ) (id : ActionId) (s : σ) : ∃ n v, FirstVerdict client id s n v := by
  induction hpatience : client.patience s using Nat.strongRecOn generalizing s with
  | _ patience ih =>
    subst hpatience
    rcases isRunning_or_decides (client.pollReply id 0 s) with ⟨a, ha, hrunning⟩ | ⟨v, hv⟩
    · obtain ⟨n, v, hfirst⟩ := ih _ (client.patience_lt id s a ha hrunning) _ rfl
      refine ⟨n + 1, v, fun k hk => ?_, hfirst.decides⟩
      cases k with
      | zero => exact ⟨a, ha, hrunning⟩
      | succ k => exact hfirst.running k (Nat.lt_of_succ_lt_succ hk)
    · exact ⟨0, v, fun k hk => absurd hk (Nat.not_lt_zero k), hv⟩

namespace Session

variable {client : ProviderClient σ} {policy : Policy} {id : ActionId}

/-- The session after so many polls of an action. -/
def afterPolls (client : ProviderClient σ) (id : ActionId) (n : Nat) (s : Session σ) : Session σ :=
  { s with client := client.afterPolls id n s.client, calls := s.calls ++ List.replicate n (.getAction id) }

/-- The first of several polls comes before all others. -/
theorem afterPolls_succ (n : Nat) (s : Session σ) :
    s.afterPolls client id (n + 1) = (s.ask client (.getAction id)).2.afterPolls client id n := by
  simp [afterPolls, ask, ProviderClient.afterPolls, List.replicate_succ]

/-- A reply that decides ends the polling. -/
theorem watch_of_decides {v : Except ProviderError Unit} {s : Session σ} (h : Decides (client.pollReply id 0 s.client) v)
    (w : Wait) : watch client policy id w s = (some v, s.afterPolls client id 1) := by
  have hask : s.ask client (.getAction id) = (client.pollReply id 0 s.client, s.afterPolls client id 1) := rfl
  rw [watch_eq, hask]
  cases hreply : client.pollReply id 0 s.client with
  | error e =>
    rw [hreply] at h
    cases h
    rfl
  | ok a =>
    rw [hreply] at h
    cases h with
    | succeeded _ hstatus => simp only [hstatus]
    | failed _ e hstatus => simp only [hstatus]

/-- After a reply that the action is running the polling goes on, at another interval. -/
theorem watch_of_running (hunlimited : policy.maxWait = none) {s : Session σ} (hstays : s.timeLeft = none)
    (h : IsRunning (client.pollReply id 0 s.client)) (w : Wait) :
    watch client policy id w s = watch client policy id (policy.nextWait s.clock w) (s.ask client (.getAction id)).2 := by
  obtain ⟨a, hreply, hstatus⟩ := h
  have hask : s.ask client (.getAction id) = (.ok a, (s.ask client (.getAction id)).2) := Prod.ext hreply rfl
  have hgoesOn : policy.givesUp w = false := by
    rw [Policy.givesUp, hunlimited]
    rfl
  have hpause : (s.ask client (.getAction id)).2.pause (leastPause w.interval) = some (s.ask client (.getAction id)).2 := by
    have htime : (s.ask client (.getAction id)).2.timeLeft = none := hstays
    rw [pause, htime]
  rw [watch_eq, hask]
  simp only [hstatus, hgoesOn, hpause, Bool.false_eq_true, if_false]

/-- An action is polled up to the first reply that decides, and that is the answer. -/
theorem watch_of_first (hunlimited : policy.maxWait = none) {n : Nat} {v : Except ProviderError Unit} {s : Session σ}
    (hstays : s.timeLeft = none) (h : FirstVerdict client id s.client n v) (w : Wait) :
    watch client policy id w s = (some v, s.afterPolls client id (n + 1)) := by
  induction n generalizing s w with
  | zero => exact watch_of_decides h.decides w
  | succ n ih =>
    have hrest : FirstVerdict client id (s.ask client (.getAction id)).2.client n v :=
      ⟨fun k hk => h.running (k + 1) (Nat.succ_lt_succ hk), h.decides⟩
    have hgoesOn := ih (s := (s.ask client (.getAction id)).2) hstays hrest (policy.nextWait s.clock w)
    rw [watch_of_running hunlimited hstays (h.running 0 (Nat.succ_pos n)), hgoesOn, afterPolls_succ (n + 1) s]

/-- An action that is decided is not polled. -/
theorem await_of_decided {a : Action} {v : Except ProviderError Unit} (h : Decides (.ok a) v) (s : Session σ) :
    s.answer client policy (.await a) = (some v, s) := by
  unfold answer
  cases h with
  | succeeded _ hstatus => simp only [hstatus]
  | failed _ e hstatus => simp only [hstatus]

/-- An action that is running is watched from the first pause on. -/
theorem await_of_running {a : Action} (h : a.status = .running) (s : Session σ) :
    s.answer client policy (.await a) = watch client policy a.id policy.firstWait s := by
  unfold answer
  simp only [h]

/-! ## A bound on the wait -/

/-- A call is logged, and leaves the clock as it is. -/
theorem kept_by_ask {c : ProviderCall} {s t : Session σ} {r : Except ProviderError c.Answer} (h : s.ask client c = (r, t)) :
    t.calls = s.calls ++ [c] ∧ t.clock = s.clock := by
  cases h
  exact ⟨rfl, rfl⟩

/-- A pause changes no more than the time that is left. -/
theorem kept_by_pause {time : Nat} {s t : Session σ} (h : s.pause time = some t) : t.calls = s.calls ∧ t.clock = s.clock := by
  unfold pause at h
  split at h
  · cases h
    exact ⟨rfl, rfl⟩
  · split at h <;> cases h
    exact ⟨rfl, rfl⟩

/-- The least that so many pauses come to, of which the first is drawn at a given interval. -/
def leastWaited (policy : Policy) (interval : Nat) : Nat → Nat
  | 0 => 0
  | n + 1 => leastPause interval + leastWaited policy (policy.nextInterval interval) n

/-- By a running clock, a wait with a limit is given up before a pause that would bring it to the limit: with the pauses between its
polls the wait stays below. -/
theorem watch_within_limit (client : ProviderClient σ) (id : ActionId) {limit : Nat} (hlimit : policy.maxWait = some limit) (w : Wait)
    {s : Session σ} (hclock : s.clock = .running) :
    ∃ n, (watch client policy id w s).2.calls = s.calls ++ List.replicate (n + 1) (.getAction id) ∧
      (n ≠ 0 → w.elapsed + leastWaited policy w.interval n < limit) := by
  fun_induction watch client policy id w s with
  | case1 w s e t hask | case2 w s a t hask | case3 w s a t hask | case4 w s a t hask | case5 w s a t hask =>
    exact ⟨0, (kept_by_ask hask).1, fun h => absurd rfl h⟩
  | case6 w s a t hask _ hbegins u hpause ih =>
    obtain ⟨hasked, hclockAsked⟩ := kept_by_ask hask
    obtain ⟨hpaused, hclockPaused⟩ := kept_by_pause hpause
    have hbelow : w.elapsed + leastPause w.interval < limit := by simpa [Policy.givesUp, hlimit] using hbegins
    obtain ⟨n, hpolls, hwaited⟩ := ih (hclockPaused.trans (hclockAsked.trans hclock))
    refine ⟨n + 1, by rw [hpolls, hpaused, hasked, List.append_assoc]; rfl, fun _ => ?_⟩
    cases n with
    | zero => exact hbelow
    | succ n =>
      have hrest := hwaited (Nat.succ_ne_zero n)
      rw [hclock, Policy.nextWait, Clock.shown, Nat.add_assoc] at hrest
      exact hrest

/-- Where a limit is set and the clock runs, the pauses between the polls of an action come to less than the limit. -/
theorem await_within_limit {limit : Nat} (hlimit : policy.maxWait = some limit) (a : Action) {s : Session σ}
    (hclock : s.clock = .running) :
    ∃ n, (s.answer client policy (.await a)).2.calls = s.calls ++ List.replicate n (.getAction a.id) ∧
      (1 < n → leastWaited policy policy.initialInterval (n - 1) < limit) := by
  rcases isRunning_or_decides (.ok a) with ⟨_, ⟨⟩, hrunning⟩ | ⟨v, hv⟩
  · obtain ⟨n, hpolls, hwaited⟩ := watch_within_limit client a.id hlimit policy.firstWait hclock
    rw [await_of_running hrunning]
    exact ⟨n + 1, hpolls, fun hn => by simpa [Policy.firstWait] using hwaited (by omega)⟩
  · rw [await_of_decided hv]
    exact ⟨0, (List.append_nil _).symm, fun hn => absurd hn (by omega)⟩

end Session

/-! ## Scripts -/

/-- A script replies from the head of its queue, and with an error behind the last reply. -/
theorem next_eq_head {α : Type} (queue : List (Except ProviderError α)) :
    Script.next queue = (queue.head?.getD (.error ⟨.other, "unscripted"⟩), queue.tail) := by
  cases queue <;> rfl

/-- Polls take their replies off the queue of a script. -/
theorem afterPolls_script (id : ActionId) (n : Nat) (s : Script) :
    Script.client.afterPolls id n s = { s with getAction := s.getAction.drop n } := by
  induction n generalizing s with
  | zero => rfl
  | succ n ih =>
    have hpolled : (Script.client.answer (.getAction id) s).2 = { s with getAction := s.getAction.tail } := by
      simp [Script.client, Script.answer, next_eq_head]
    rw [ProviderClient.afterPolls, hpolled, ih]
    simp

/-- A poll of a script is replied to from its own place in the queue. -/
theorem pollReply_script (id : ActionId) (n : Nat) (s : Script) :
    Script.client.pollReply id n s = (s.getAction[n]?).getD (.error ⟨.other, "unscripted"⟩) := by
  rw [ProviderClient.pollReply, afterPolls_script]
  simp [Script.client, Script.answer, next_eq_head]

/-- Replies that an action is running, and then one that decides. -/
theorem firstVerdict_script {id : ActionId} {running : List Action} {reply : Except ProviderError Action}
    {rest : List (Except ProviderError Action)} {v : Except ProviderError Unit} {s : Script}
    (hrunning : ∀ a ∈ running, a.status = .running) (hv : Decides reply v)
    (hreplies : s.getAction = running.map .ok ++ reply :: rest) : FirstVerdict Script.client id s running.length v where
  running k hk := by
    refine ⟨running[k], ?_, hrunning _ (List.getElem_mem hk)⟩
    rw [pollReply_script, hreplies, List.getElem?_append_left (by simpa using hk)]
    simp [hk]
  decides := by
    rw [pollReply_script, hreplies]
    simpa using hv

namespace Session

/-- Without a bound on the wait, an action that is decided is answered at once, without a call, as it was decided. One that is running is
polled until the first reply that decides: as often as it is said to be running and once more, and the answer is what that reply decides.
Such a reply comes, from every client; and if replies are given in a row, those behind it are left. -/
theorem await_stops {policy : Policy} (hunlimited : policy.maxWait = none) (a : Action) :
    (∀ {σ : Type} (client : ProviderClient σ) (s : Session σ), s.timeLeft = none →
      (∀ v, Decides (.ok a) v → s.answer client policy (.await a) = (some v, s)) ∧
        (a.status = .running → ∃ n v, FirstVerdict client a.id s.client n v ∧
          s.answer client policy (.await a) =
            (some v, { s with
              client := client.afterPolls a.id (n + 1) s.client
              calls := s.calls ++ List.replicate (n + 1) (.getAction a.id) }))) ∧
    ∀ (s : Session Script) (running : List Action) (reply : Except ProviderError Action)
      (rest : List (Except ProviderError Action)) (v : Except ProviderError Unit), s.timeLeft = none → a.status = .running →
      (∀ b ∈ running, b.status = .running) → Decides reply v → s.client.getAction = running.map .ok ++ reply :: rest →
      s.answer Script.client policy (.await a) =
        (some v, { s with
          client := { s.client with getAction := rest }
          calls := s.calls ++ List.replicate (running.length + 1) (.getAction a.id) }) := by
  constructor
  · intro σ client s hstays
    refine ⟨fun v hv => await_of_decided hv s, fun hrunning => ?_⟩
    obtain ⟨n, v, hfirst⟩ := exists_firstVerdict client a.id s.client
    refine ⟨n, v, hfirst, ?_⟩
    rw [await_of_running hrunning, watch_of_first hunlimited hstays hfirst]
    rfl
  · intro s running reply rest v hstays hrunning hall hv hreplies
    have hleft : s.client.getAction.drop (running.length + 1) = rest := by
      rw [hreplies, List.append_cons, List.drop_left' (by simp)]
    rw [await_of_running hrunning, watch_of_first hunlimited hstays (firstVerdict_script hall hv hreplies), afterPolls,
      afterPolls_script, hleft]

/-- An action that is said to be running twice and then to have failed, before a reply that is not asked for. -/
theorem await_stops_failed :
    let action (status : ActionStatus) : Action := ⟨⟨9⟩, status⟩
    let busy : ProviderError := ⟨.locked, "busy"⟩
    let s : Session Script :=
      { client :=
          { getAction := [.ok (action .running), .ok (action .running), .ok (action (.failed busy)), .ok (action .success)] } }
    (({} : Policy).maxWait = none ∧ s.timeLeft = none ∧ (action .running).status = .running) ∧
      s.answer Script.client {} (.await (action .success)) = (some (.ok ()), s) ∧
      s.answer Script.client {} (.await (action .running)) =
        (some (.error busy), { client := { getAction := [.ok (action .success)] }, calls := List.replicate 3 (.getAction ⟨9⟩) }) := by
  intro action busy s
  refine ⟨⟨rfl, rfl, rfl⟩, ?_, ?_⟩
  · exact ((await_stops rfl (action .success)).1 Script.client s rfl).1 _ (.succeeded _ rfl)
  · exact (await_stops rfl (action .running)).2 s [action .running, action .running] (.ok (action (.failed busy)))
      [.ok (action .success)] (.error busy) rfl rfl (by simp [action]) (.failed _ busy rfl) rfl

end Session

end Provider

end VolumeDriver
