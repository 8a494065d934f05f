import Mathlib.Data.List.Basic
import VolumeDriver.Proofs.Provider.Shape

/-!
# At most one effect for each gateway call

Of the calls that a gateway call makes, at most one changes something at the provider, however often the action is polled, and
a volume is changed only after a look at it that allows the change. Making a volume is the exception: a volume whose making
failed is deleted, which is one further change, and the answer is the failure then, whatever comes of the deletion
(`Session.one_effect`).
-/

namespace VolumeDriver

/-- Whether a call changes something at the provider. -/
def ProviderCall.changes : ProviderCall → Bool
  | .createVolume _ | .deleteVolume _ | .attachVolume _ _ | .detachVolume _ | .resizeVolume _ _ => true
  | .getVolume _ | .getVolumeByName _ | .listVolumes | .serverExists _ | .getAction _ => false

namespace Provider

variable {policy : Policy} {xs : List ProviderExchange}

/-! ## Effects -/

/-- The calls that change something, in order. -/
def effects (xs : List ProviderExchange) : List ProviderCall := (xs.map (·.1)).filter (·.changes)

/-- A look adds nothing to what is changed, and any other call adds itself. -/
theorem effects_cons (x : ProviderExchange) (xs : List ProviderExchange) :
    effects (x :: xs) = if x.1.changes then x.1 :: effects xs else effects xs :=
  List.filter_cons

/-- What is changed is changed in order. -/
theorem effects_append (xs ys : List ProviderExchange) : effects (xs ++ ys) = effects xs ++ effects ys := by
  rw [effects, List.map_append, List.filter_append]
  rfl

/-- Exchanges that change nothing have none that changes something. -/
theorem not_mem_of_effects {x : ProviderExchange} (hx : x.1.changes = true) (h : effects xs = []) : x ∉ xs := by
  intro hmem
  have heffect : x.1 ∈ effects xs := List.mem_filter.2 ⟨List.mem_map_of_mem hmem, hx⟩
  rw [h] at heffect
  cases heffect

/-- Polling changes nothing. -/
theorem Polls.effects_eq {id : ActionId} {r : Option (Except ProviderError Unit)} (h : Polls policy id xs r) :
    effects xs = [] := by
  induction h with
  | again a h _ ih => exact ih
  | _ => rfl

/-- To wait for an action changes nothing. -/
theorem Awaits.effects_eq {a : Action} {r : Option (Except ProviderError Unit)} (h : Awaits policy a xs r) :
    effects xs = [] := by
  cases h with
  | polled h polls => exact polls.effects_eq
  | _ => rfl

/-- What follows the reply to a call that starts an action changes nothing. -/
theorem Settled.effects_eq {reply : Except ProviderError Action} {r : Option (Except VolumeError Unit)}
    (h : Settled policy reply xs r) : effects xs = [] := by
  cases h with
  | refused e => rfl
  | awaited h => exact h.effects_eq

/-! ## One change, under a condition -/

/-- Nothing is changed but by the one call, made at most once and only after exchanges of which `P` holds. -/
def MayChange (m : ProviderCall) (P : List ProviderExchange → Prop) (xs : List ProviderExchange) : Prop :=
  effects xs = [] ∨
    effects xs = [m] ∧ ∀ before reply after, xs = before ++ ⟨m, reply⟩ :: after → P before

variable {m : ProviderCall} {P : List ProviderExchange → Prop}

/-- One call between exchanges that change nothing is a single change. -/
theorem MayChange.once (before : List ProviderExchange) {after : List ProviderExchange}
    {reply : Except ProviderError m.Answer} (hm : m.changes = true) (hb : effects before = []) (ha : effects after = [])
    (h : P before) : MayChange m P (before ++ ⟨m, reply⟩ :: after) := by
  refine Or.inr ⟨?_, fun before' reply' after' heq => ?_⟩
  · rw [effects_append, hb, effects_cons, ha, if_pos hm, List.nil_append]
  · obtain ⟨rfl, -⟩ := (List.append_cons_inj_of_notMem (not_mem_of_effects hm hb) (not_mem_of_effects hm ha)).1 heq
    exact h

/-! ## Failing actions -/

/-- What a poll is answered tells that the action failed with the error, or that it cannot be polled. -/
def TellsFailure (e : ProviderError) : Except ProviderError Action → Prop
  | .ok a => a.status = .failed e
  | .error e' => e' = e

/-- The action had failed when it was started, or it was running and a poll told of a failure. -/
def FailsWith (a : Action) (polls : List ProviderExchange) (e : ProviderError) : Prop :=
  a.status = .failed e ∨ a.status = .running ∧ ∃ reply, ⟨.getAction a.id, reply⟩ ∈ polls ∧ TellsFailure e reply

/-- Polls that end in an error were told of it, unless the patience of the policy is limited. -/
theorem Polls.tells_of_error (unlimited : policy.maxWait = none) {id : ActionId} {e : ProviderError}
    (h : Polls policy id xs (some (.error e))) : ∃ reply, ⟨.getAction id, reply⟩ ∈ xs ∧ TellsFailure e reply := by
  generalize hr : some (Except.error e) = r at h
  induction h with
  | refused e' =>
    cases hr
    exact ⟨.error e, List.mem_singleton.2 rfl, rfl⟩
  | succeeded a h => nomatch hr
  | failed a e' h =>
    cases hr
    exact ⟨.ok a, List.mem_singleton.2 rfl, h⟩
  | gaveUp a h limited => exact absurd unlimited limited
  | abandoned a h => nomatch hr
  | again a h _ ih =>
    obtain ⟨reply, hmem, htells⟩ := ih hr
    exact ⟨reply, List.mem_cons_of_mem _ hmem, htells⟩

/-- Polls that come to no error tell of none. -/
theorem Polls.error_of_tells {id : ActionId} {r : Option (Except ProviderError Unit)} (h : Polls policy id xs r)
    {reply : Except ProviderError Action} {e : ProviderError} (hmem : ⟨.getAction id, reply⟩ ∈ xs)
    (htells : TellsFailure e reply) : ∃ e', r = some (.error e') := by
  induction h with
  | refused e' => exact ⟨e', rfl⟩
  | succeeded a h =>
    cases List.mem_singleton.1 hmem
    nomatch h.symm.trans htells
  | failed a e' h => exact ⟨e', rfl⟩
  | gaveUp a h _ => exact ⟨_, rfl⟩
  | abandoned a h =>
    cases List.mem_singleton.1 hmem
    nomatch h.symm.trans htells
  | again a h _ ih =>
    rcases List.mem_cons.1 hmem with heq | hmem
    · cases heq
      nomatch h.symm.trans htells
    · exact ih hmem

/-- To wait for an action ends in the error that the action failed with. -/
theorem Awaits.failsWith (unlimited : policy.maxWait = none) {a : Action} {e : ProviderError}
    (h : Awaits policy a xs (some (.error e))) : FailsWith a xs e := by
  cases h with
  | failed _ h => exact Or.inl h
  | polled h polls => exact Or.inr ⟨h, polls.tells_of_error unlimited⟩

/-- To wait for an action that fails ends in an error. -/
theorem Awaits.error_of_failsWith {a : Action} {r : Option (Except ProviderError Unit)} (h : Awaits policy a xs r)
    {e : ProviderError} (hfails : FailsWith a xs e) : ∃ e', r = some (.error e') := by
  rcases hfails with hfailed | ⟨hrunning, reply, hmem, htells⟩
  · cases h with
    | succeeded h => nomatch h.symm.trans hfailed
    | failed e' h => exact ⟨e', rfl⟩
    | polled h polls => nomatch h.symm.trans hfailed
  · cases h with
    | succeeded h => nomatch h.symm.trans hrunning
    | failed e' h => exact ⟨e', rfl⟩
    | polled h polls => exact polls.error_of_tells hmem htells

/-! ## Gateway calls -/

/-- The exchanges have a look at the volume that found it, and `allows` holds of what was found. -/
def Saw (id : VolumeId) (allows : Volume → Prop) (xs : List ProviderExchange) : Prop :=
  ∃ v, ⟨.getVolume id, .ok (some v)⟩ ∈ xs ∧ allows v

/-- What a gateway call may change, and after which looks. A volume is made with one call; exactly if its action failed or could
not be polled, one more call deletes it, and the answer is that failure. -/
def OneEffect : (c : GatewayCall) → List ProviderExchange → Option (Except VolumeError c.Answer) → Prop
  | .create o, xs, r =>
    ∃ reply rest, xs = ⟨.createVolume (orderOf o), reply⟩ :: rest ∧
      ((effects rest = [] ∧ ∀ v a e, reply = .ok (v, a) → ¬ FailsWith a rest e) ∨
        ∃ v a e polls deleted, reply = .ok (v, a) ∧ rest = polls ++ [⟨.deleteVolume v.id, deleted⟩] ∧
          effects polls = [] ∧ FailsWith a polls e ∧ r = some (.error (translate none e)))
  | .delete id, xs, _ => MayChange (.deleteVolume id) (Saw id fun v => v.attachedServer = none) xs
  | .attach id server, xs, _ =>
    MayChange (.attachVolume id server)
      (fun before => Saw id (fun v => v.attachedServer = none) before ∧ ⟨.serverExists server, .ok true⟩ ∈ before) xs
  | .detach id server, xs, _ =>
    MayChange (.detachVolume id)
      (Saw id fun v => ∃ holder, v.attachedServer = some holder ∧ (server = none ∨ server = some holder)) xs
  | .resize id sizeGib, xs, _ => MayChange (.resizeVolume id sizeGib) (Saw id fun v => v.sizeGib < sizeGib) xs
  | .getById _, xs, _ | .getByName _, xs, _ | .all, xs, _ => effects xs = []

/-- Without a limit on the wait, a transcript of the shape changes no more than its call may. -/
theorem Shape.oneEffect (unlimited : policy.maxWait = none) {c : GatewayCall} {r : Option (Except VolumeError c.Answer)}
    (h : Shape policy c xs r) : OneEffect c xs r := by
  cases h with
  | notCreated o e => exact ⟨_, _, rfl, Or.inl ⟨rfl, nofun⟩⟩
  | created o v a h =>
    refine ⟨_, _, rfl, Or.inl ⟨h.effects_eq, ?_⟩⟩
    rintro _ _ e ⟨⟩ hfails
    obtain ⟨_, heq⟩ := h.error_of_failsWith hfails
    nomatch heq
  | @undone o v a polls e h reply =>
    exact ⟨_, _, rfl, Or.inr ⟨v, a, e, polls, reply, rfl, rfl, h.effects_eq, h.failsWith unlimited, rfl⟩⟩
  | creationLeft o v a h =>
    refine ⟨_, _, rfl, Or.inl ⟨h.effects_eq, ?_⟩⟩
    rintro _ _ e ⟨⟩ hfails
    obtain ⟨_, heq⟩ := h.error_of_failsWith hfails
    nomatch heq
  | deleted id h reply =>
    exact MayChange.once [_] rfl rfl rfl ⟨_, List.mem_singleton.2 rfl, h⟩
  | attached id server h settled =>
    exact MayChange.once [_, _] rfl rfl settled.effects_eq
      ⟨⟨_, List.mem_cons_self, h⟩, List.mem_cons_of_mem _ List.mem_cons_self⟩
  | attachmentLeft id server h a =>
    exact MayChange.once [_, _] rfl rfl rfl
      ⟨⟨_, List.mem_cons_self, h⟩, List.mem_cons_of_mem _ List.mem_cons_self⟩
  | detached id server h same settled =>
    exact MayChange.once [_] rfl rfl settled.effects_eq ⟨_, List.mem_singleton.2 rfl, _, h, same⟩
  | grown id h settled =>
    exact MayChange.once [_] rfl rfl settled.effects_eq ⟨_, List.mem_singleton.2 rfl, h⟩
  | readById | readByName | listed => rfl
  | _ => exact Or.inl rfl

namespace Session

variable {σ : Type}

/-- Every gateway call has at most one effect, whatever the client replies and however often it is polled. The exchanges are those
of the calls that the client got. -/
theorem one_effect (client : ProviderClient σ) {policy : Policy} (unlimited : policy.maxWait = none) (c : GatewayCall)
    (s : Session σ) :
    (run client policy (layer policy c) s).2.calls = s.calls ++ (transcript client policy (layer policy c) s).map (·.1) ∧
      OneEffect c (transcript client policy (layer policy c) s) (run client policy (layer policy c) s).1 :=
  ⟨(conducts_run client policy (layer policy c) s).2, (shape_run client policy c s).oneEffect unlimited⟩

/-- A provider whose next volume is not made: its action is running, and is then not found. -/
def brokenCreation : Session Script where
  client := {
    createVolume := [.ok (⟨⟨7⟩, "data", 10, "fsn1", "", none⟩, ⟨⟨2⟩, .running⟩)]
    getAction := [.error ⟨.notFound, "no action"⟩]
    deleteVolume := [.error ⟨.locked, "busy"⟩] }

/-- The creation whose action is not found: the volume is deleted again. -/
theorem one_effect_of_brokenCreation :
    ({} : Policy).maxWait = none ∧
      (run Script.client {} (layer {} (.create ⟨"data", 10, 0, "fsn1", .empty⟩)) brokenCreation).2.calls =
        brokenCreation.calls ++
          (transcript Script.client {} (layer {} (.create ⟨"data", 10, 0, "fsn1", .empty⟩)) brokenCreation).map (·.1) ∧
      OneEffect (.create ⟨"data", 10, 0, "fsn1", .empty⟩)
        (transcript Script.client {} (layer {} (.create ⟨"data", 10, 0, "fsn1", .empty⟩)) brokenCreation)
        (run Script.client {} (layer {} (.create ⟨"data", 10, 0, "fsn1", .empty⟩)) brokenCreation).1 ∧
      (run Script.client {} (layer {} (.create ⟨"data", 10, 0, "fsn1", .empty⟩)) brokenCreation).1 =
        some (.error (.other "no action (NotFound)")) ∧
      (run Script.client {} (layer {} (.create ⟨"data", 10, 0, "fsn1", .empty⟩)) brokenCreation).2.calls =
        [.createVolume ⟨"data", 10, "fsn1", .empty⟩, .getAction ⟨2⟩, .deleteVolume ⟨7⟩] := by
  have unlimited : ({} : Policy).maxWait = none := rfl
  obtain ⟨hcalls, heffect⟩ := one_effect Script.client unlimited (.create ⟨"data", 10, 0, "fsn1", .empty⟩) brokenCreation
  refine ⟨unlimited, hcalls, heffect, ?_, ?_⟩
  · simp [Session.run, answer, Session.ask, brokenCreation, Script.client, Script.answer, Script.next, layer, create, Provider.ask,
      Program.ask, await, translate, watch_eq, ProviderError.describe, ProviderErrorCode.name]
  · simp [Session.run, answer, Session.ask, brokenCreation, Script.client, Script.answer, Script.next, layer, create, Provider.ask,
      Program.ask, await, watch_eq]

end Session

end Provider

end VolumeDriver
