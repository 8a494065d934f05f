import Mathlib.Data.List.Nodup
import VolumeDriver.Proofs.Gateway.Absorption
import VolumeDriver.Proofs.Provider.Shape

/-!
# The gateway over the provider agrees with the store

A client is backed by a store (`Backed`) if its looks read the store, and what it accepts is done to the store at once and is
reported running a finite number of times. The gateway over such a client answers every call as the store itself does, and
leaves the same store (`serves_layer`), although it looks before it changes anything and translates errors; so every run of gateway
calls has the same answers over the client as over the store (`agrees_with_store`).
-/

namespace VolumeDriver

open Program

namespace Store

/-! ## Names -/

/-- No two volumes have one name. -/
def UniqueNames (s : Store) : Prop := (s.volumes.values.map (·.name)).Nodup

namespace UniqueNames

variable {s : Store}

/-- The only volume of a name is found. -/
theorem findName_eq (h : s.UniqueNames) {v : Volume} (hv : v ∈ s.volumes.values) : s.findName v.name = some v := by
  cases hfind : s.findName v.name with
  | none => exact absurd (decide_eq_true rfl) (List.find?_eq_none.1 hfind v hv)
  | some w =>
    have hfound := List.find?_some hfind
    have hname : w.name = v.name := of_decide_eq_true hfound
    rw [List.inj_on_of_nodup_map h (List.mem_of_find?_eq_some hfind) hv hname]

/-- Without one of its volumes, a store has unique names. -/
theorem erase (h : s.UniqueNames) (id : VolumeId) : ((s.volumes.erase id).values.map (·.name)).Nodup :=
  ((List.filter_sublist.map _).map _).nodup h

/-- Names stay unique if the only volume that is put has a name which no other volume has. -/
theorem insert (h : s.UniqueNames) {id : VolumeId} {v : Volume}
    (hother : v.name ∉ (s.volumes.erase id).values.map (·.name)) : ((s.volumes.insert id v).values.map (·.name)).Nodup :=
  ((SortedMap.values_insert_perm s.volumes id v).map (·.name)).nodup_iff.2 (List.nodup_cons.2 ⟨hother, h.erase id⟩)

/-- A volume may be put in place of another of its name. -/
theorem put (h : s.UniqueNames) {id : VolumeId} {v w : Volume} (hv : s.volumes.get? id = some v) (hname : w.name = v.name) :
    (s.put id w).UniqueNames := by
  have hnodup := ((SortedMap.values_perm_of_get? hv).map Volume.name).nodup_iff.1 h
  exact h.insert (hname ▸ (List.nodup_cons.1 hnodup).1)

/-- Every call keeps names unique. -/
theorem answer (h : s.UniqueNames) (c : GatewayCall) : (s.answer c).2.UniqueNames := by
  have hstep := s.step_answer c
  generalize (s.answer c).2 = t at hstep
  cases hstep with
  | unchanged => exact h
  | created o free =>
    refine h.insert fun hmem => ?_
    obtain ⟨v, hv, hname⟩ := List.mem_map.1 hmem
    exact free ⟨v, (List.filter_sublist.map _).subset hv, hname⟩
  | deleted id => exact h.erase id
  | attached id server v found => exact h.put found rfl
  | detached id _ v found => exact h.put found rfl
  | resized id _ v found => exact h.put found rfl

end UniqueNames

end Store

namespace Provider

variable {σ α β : Type}

/-! ## Clients over a store -/

/-- What a client replies to a call, and the store that the call leaves. -/
structure Replies (client : ProviderClient σ) (store : σ → Store) (c : ProviderCall) (s : σ)
    (reply : Except ProviderError c.Answer) (left : Store) : Prop where
  reply_eq : (client.answer c s).1 = reply
  store_eq : store (client.answer c s).2 = left

/-- Polling an action reports it running a finite number of times and then done, and leaves the store alone. -/
inductive Finishes (client : ProviderClient σ) (store : σ → Store) (id : ActionId) : σ → Prop
  | now {s : σ} {a : Action} (status : a.status = .success)
      (polled : Replies client store (.getAction id) s (.ok a) (store s)) : Finishes client store id s
  | later {s : σ} {a : Action} (status : a.status = .running)
      (polled : Replies client store (.getAction id) s (.ok a) (store s))
      (rest : Finishes client store id (client.answer (.getAction id) s).2) : Finishes client store id s

/-- An action is done, or it is running and will be. -/
def Completes (client : ProviderClient σ) (store : σ → Store) (a : Action) (s : σ) : Prop :=
  a.status = .success ∨ a.status = .running ∧ Finishes client store a.id s

/-- A call is accepted: it is done to the store at once, and its action completes. -/
def Accepts (client : ProviderClient σ) (store : σ → Store) (c : ProviderCall) (s : σ)
    (reply : Action → c.Answer) (left : Store) : Prop :=
  ∃ a, Replies client store c s (.ok (reply a)) left ∧ Completes client store a (client.answer c s).2

/-- A call is refused with an error code, and leaves the store alone. -/
def Refuses (client : ProviderClient σ) (store : σ → Store) (c : ProviderCall) (s : σ) (code : ProviderErrorCode) : Prop :=
  ∃ message, Replies client store c s (.error ⟨code, message⟩) (store s)

/-- A client whose looks read a store, and which does to the store what the store allows. Of several volumes of one name it may
find any. -/
structure Backed (client : ProviderClient σ) (store : σ → Store) : Prop where
  getVolume : ∀ id s, Replies client store (.getVolume id) s (.ok ((store s).volumes.get? id)) (store s)
  getVolumeByName : ∀ name s, ∃ v, Replies client store (.getVolumeByName name) s (.ok v) (store s) ∧
    (∀ w, v = some w → w ∈ (store s).volumes.values ∧ w.name = name) ∧ (v = none → ¬ (store s).Taken name)
  listVolumes : ∀ s, Replies client store .listVolumes s (.ok (store s).volumes.values) (store s)
  serverExists : ∀ server s, Replies client store (.serverExists server) s (.ok (decide (server ∈ (store s).servers))) (store s)
  createVolume_taken : ∀ o s, (store s).Taken o.name → Refuses client store (.createVolume (orderOf o)) s .uniquenessError
  createVolume : ∀ o s, ¬ (store s).Taken o.name →
    Accepts client store (.createVolume (orderOf o)) s (fun a => ((store s).newVolume o, a)) ((store s).withNew o)
  deleteVolume : ∀ id s v, (store s).volumes.get? id = some v → v.attachedServer = none →
    Replies client store (.deleteVolume id) s (.ok ()) ((store s).forget id)
  attachVolume_full : ∀ id server s v, (store s).volumes.get? id = some v → v.attachedServer = none →
    server ∈ (store s).servers → (store s).maxAttachments ≤ (store s).attachedTo server →
    Refuses client store (.attachVolume id server) s .volumeLimitReached
  attachVolume : ∀ id server s v, (store s).volumes.get? id = some v → v.attachedServer = none →
    server ∈ (store s).servers → (store s).attachedTo server < (store s).maxAttachments →
    Accepts client store (.attachVolume id server) s (fun a => a) ((store s).put id (Store.held id server v))
  detachVolume : ∀ id s v, (store s).volumes.get? id = some v → v.attachedServer ≠ none →
    Accepts client store (.detachVolume id) s (fun a => a) ((store s).put id (Store.released v))
  resizeVolume : ∀ id sizeGib s v, (store s).volumes.get? id = some v → v.sizeGib < sizeGib →
    Accepts client store (.resizeVolume id sizeGib) s (fun a => a) ((store s).put id { v with sizeGib := sizeGib })

/-! ## What a session leaves -/

/-- The session runs the program to an answer and leaves a store, and the caller waits on. -/
structure Serves (client : ProviderClient σ) (policy : Policy) (store : σ → Store) (p : Program tasks α) (s : Session σ)
    (outcome : α × Store) : Prop where
  answer_eq : (Session.run client policy p s).1 = some outcome.1
  store_eq : store (Session.run client policy p s).2.client = outcome.2
  patient : (Session.run client policy p s).2.timeLeft = none

section Serving

variable {client : ProviderClient σ} {policy : Policy} {store : σ → Store}

section Steps

variable {s : Session σ} {outcome : α × Store}

theorem serves_done {a : α} {left : Store} (hstore : store s.client = left) (patient : s.timeLeft = none) :
    Serves client policy store (.done a) s (a, left) := ⟨rfl, hstore, patient⟩

/-- A session goes on from the reply to a call. -/
theorem serves_ask {c : ProviderCall} {reply : Except ProviderError c.Answer} {left : Store}
    {f : Except ProviderError c.Answer → Program tasks α} (h : Replies client store c s.client reply left)
    (patient : s.timeLeft = none)
    (rest : ∀ t : Session σ, t.client = (client.answer c s.client).2 → store t.client = left → t.timeLeft = none →
      Serves client policy store (f reply) t outcome) :
    Serves client policy store ((ask c).bind f) s outcome := by
  have hrest := rest (s.ask client c).2 rfl h.store_eq patient
  rw [← h.reply_eq] at hrest
  exact ⟨hrest.answer_eq, hrest.store_eq, hrest.patient⟩

/-- A caller without a limit waits through a pause. -/
theorem serves_pause {time : Nat} {f : Unit → Program tasks α} (patient : s.timeLeft = none)
    (rest : Serves client policy store (f ()) s outcome) : Serves client policy store ((pauseFor time).bind f) s outcome := by
  have hrun : Session.run client policy ((pauseFor time).bind f) s = Session.run client policy (f ()) s := by
    show Session.run client policy (.call (.pause time) f) s = _
    simp only [Session.run, Session.answer, Session.pause, patient]
  exact ⟨hrun ▸ rest.answer_eq, hrun ▸ rest.store_eq, hrun ▸ rest.patient⟩

/-- Polling an action that finishes ends with success, however long the intervals. -/
theorem watch_of_finishes (unlimited : policy.maxWait = none) {id : ActionId} {x : σ} (h : Finishes client store id x)
    (w : Wait) (hs : s.client = x) (patient : s.timeLeft = none) :
    ∃ t, s.watch client policy id w = (some (.ok ()), t) ∧ store t.client = store x ∧ t.timeLeft = none := by
  induction h generalizing w s with
  | @now x a status polled =>
    subst hs
    refine ⟨(s.ask client (.getAction id)).2, ?_, polled.store_eq, patient⟩
    have hask : s.ask client (.getAction id) = (.ok a, (s.ask client (.getAction id)).2) := Prod.ext polled.reply_eq rfl
    rw [Session.watch_eq, hask]
    simp only [status]
  | @later x a status polled rest ih =>
    subst hs
    have hask : s.ask client (.getAction id) = (.ok a, (s.ask client (.getAction id)).2) := Prod.ext polled.reply_eq rfl
    have hpause : (s.ask client (.getAction id)).2.pause (leastPause w.interval) = some (s.ask client (.getAction id)).2 := by
      unfold Session.pause
      rw [show (s.ask client (.getAction id)).2.timeLeft = none from patient]
    obtain ⟨t, hwatch, hstore, htime⟩ := ih (policy.nextWait s.clock w) (s := (s.ask client (.getAction id)).2) rfl patient
    refine ⟨t, ?_, hstore.trans polled.store_eq, htime⟩
    rw [Session.watch_eq, hask]
    simp only [status, Policy.givesUp, unlimited, Option.any_none, Bool.false_eq_true, if_false, hpause]
    exact hwatch

/-- An action that completes is waited for. -/
theorem serves_await (unlimited : policy.maxWait = none) {a : Action} {f : Except ProviderError Unit → Program tasks α}
    (h : Completes client store a s.client) (patient : s.timeLeft = none)
    (rest : ∀ t : Session σ, store t.client = store s.client → t.timeLeft = none →
      Serves client policy store (f (.ok ())) t outcome) :
    Serves client policy store ((await a).bind f) s outcome := by
  have hanswer : ∃ t, s.answer client policy (.await a) = (some (.ok ()), t) ∧ store t.client = store s.client ∧
      t.timeLeft = none := by
    rcases h with hdone | ⟨hrunning, hfinishes⟩
    · exact ⟨s, by simp only [Session.answer, hdone], rfl, patient⟩
    · obtain ⟨t, hwatch, hleft⟩ := watch_of_finishes unlimited hfinishes policy.firstWait rfl patient
      exact ⟨t, by simp only [Session.answer, hrunning, hwatch], hleft⟩
  obtain ⟨t, hanswer, hstore, htime⟩ := hanswer
  have hrun : Session.run client policy ((await a).bind f) s = Session.run client policy (f (.ok ())) t := by
    show Session.run client policy (.call (.await a) f) s = _
    rw [Session.run, hanswer]
  have hrest := rest t hstore htime
  exact ⟨hrun ▸ hrest.answer_eq, hrun ▸ hrest.store_eq, hrun ▸ hrest.patient⟩

/-- An accepted call leaves its action to complete. -/
theorem serves_accepted {c : ProviderCall} {reply : Action → c.Answer} {left : Store}
    {f : Except ProviderError c.Answer → Program tasks α} (h : Accepts client store c s.client reply left)
    (patient : s.timeLeft = none)
    (rest : ∀ (a : Action) (t : Session σ), Completes client store a t.client → store t.client = left → t.timeLeft = none →
      Serves client policy store (f (.ok (reply a))) t outcome) :
    Serves client policy store ((ask c).bind f) s outcome := by
  obtain ⟨a, hreply, hcompletes⟩ := h
  exact serves_ask hreply patient fun t hclient hleft hwaits => rest a t (hclient ▸ hcompletes) hleft hwaits

/-- The outcome of a call on a volume whose action completes is success. -/
theorem serves_onVolume (unlimited : policy.maxWait = none) {a : Action} {left : Store}
    (h : Completes client store a s.client) (hstore : store s.client = left) (patient : s.timeLeft = none) :
    Serves client policy store ((await a).bind fun r => .done (onVolume r)) s (.ok (), left) :=
  serves_await unlimited h patient fun _ hkept hwaits => serves_done (hkept.trans hstore) hwaits

/-- A volume is looked at first. -/
theorem serves_look (backed : Backed client store) {id : VolumeId} {f : Except VolumeError Volume → Program tasks α}
    (patient : s.timeLeft = none)
    (rest : ∀ t : Session σ, store t.client = store s.client → t.timeLeft = none →
      Serves client policy store (f ((store s.client).getById id)) t outcome) :
    Serves client policy store ((getById id).bind f) s outcome := by
  refine serves_ask (c := .getVolume id) (f := fun reply => f (found reply)) (backed.getVolume id s.client) patient
    fun t _ hstore htime => ?_
  have hfound : found (.ok ((store s.client).volumes.get? id)) = (store s.client).getById id := by
    unfold Store.getById
    cases (store s.client).volumes.get? id <;> rfl
  rw [hfound]
  exact rest t hstore htime

end Steps

/-! ## Each call -/

section Calls

variable (backed : Backed client store) (unlimited : policy.maxWait = none) {s : Session σ} (patient : s.timeLeft = none)

include backed patient

/-- A deletion over the client is one in the store. -/
theorem serves_delete (id : VolumeId) : Serves client policy store (delete id) s ((store s.client).delete id) := by
  refine serves_look backed patient fun t hstore htime => ?_
  rcases (store s.client).delete_cases id with ⟨hv, hd⟩ | ⟨v, hv, ⟨hheld, hd⟩ | ⟨hfree, hd⟩⟩ <;> rw [hd]
  · rw [Store.getById, hv]
    exact serves_done hstore htime
  · obtain ⟨holder, hholder⟩ := Option.ne_none_iff_exists'.1 hheld
    simp only [Store.getById_of_get? hv, hholder, Option.isSome_some, if_true]
    exact serves_done hstore htime
  · simp only [Store.getById_of_get? hv, hfree, Option.isSome_none, Bool.false_eq_true, if_false]
    rw [← hstore] at hv ⊢
    exact serves_ask (backed.deleteVolume id t.client v hv hfree) htime fun u _ hleft hwaits => serves_done hleft hwaits

include unlimited

/-- A creation over the client is one in the store. -/
theorem serves_create (o : CreateOptions) : Serves client policy store (create o) s ((store s.client).create o) := by
  by_cases htaken : (store s.client).Taken o.name
  · rw [Store.create_of_taken htaken]
    obtain ⟨message, hrefused⟩ := backed.createVolume_taken o s.client htaken
    exact serves_ask hrefused patient fun t _ hstore htime => serves_done hstore htime
  · rw [Store.create_of_free htaken]
    refine serves_accepted (backed.createVolume o s.client htaken) patient fun a t hcompletes hstore htime => ?_
    exact serves_await unlimited hcompletes htime fun u hkept hwaits => serves_done (hkept.trans hstore) hwaits

/-- An expansion over the client is one in the store. -/
theorem serves_resize (id : VolumeId) (sizeGib : UInt64) :
    Serves client policy store (resize id sizeGib) s ((store s.client).resize id sizeGib) := by
  refine serves_look backed patient fun t hstore htime => ?_
  rcases (store s.client).resize_cases id sizeGib with ⟨hv, hr⟩ | ⟨v, hv, ⟨hlarge, hr⟩ | ⟨hsmall, hr⟩⟩ <;> rw [hr]
  · rw [Store.getById, hv]
    exact serves_done hstore htime
  · simp only [Store.getById_of_get? hv, hlarge, if_true]
    exact serves_done hstore htime
  · simp only [Store.getById_of_get? hv, UInt64.not_le.2 hsmall, if_false]
    rw [← hstore] at hv ⊢
    exact serves_accepted (backed.resizeVolume id sizeGib t.client v hv hsmall) htime fun a u hcompletes hleft hwaits =>
      serves_onVolume unlimited hcompletes hleft hwaits

/-- A detach over the client is one in the store. -/
theorem serves_detach (id : VolumeId) (server : Option ServerId) :
    Serves client policy store (detach id server) s ((store s.client).detach id server) := by
  refine serves_look backed patient fun t hstore htime => ?_
  rcases (store s.client).detach_cases id server with
    ⟨hv, hd⟩ | ⟨v, hv, ⟨hfree, hd⟩ | ⟨holder, hheld, ⟨⟨named, rfl, hother⟩, hd⟩ | ⟨hsame, hd⟩⟩⟩ <;> rw [hd]
  · rw [Store.getById, hv]
    exact serves_done hstore htime
  · simp only [Store.getById_of_get? hv, hfree]
    exact serves_done hstore htime
  · have hwrong : some named ≠ some holder := fun heq => hother (Option.some.inj heq).symm
    simp only [Store.getById_of_get? hv, hheld]
    rw [if_pos ⟨rfl, hwrong⟩]
    exact serves_done hstore htime
  · have hright : ¬ (server.isSome = true ∧ server ≠ some holder) := by
      rintro ⟨hnamed, hne⟩
      rcases hsame with rfl | heq
      · exact absurd hnamed Bool.false_ne_true
      · exact hne heq
    simp only [Store.getById_of_get? hv, hheld]
    rw [if_neg hright]
    rw [← hstore] at hv ⊢
    exact serves_accepted (backed.detachVolume id t.client v hv (by simp [hheld])) htime fun a u hcompletes hleft hwaits =>
      serves_onVolume unlimited hcompletes hleft hwaits

/-- An attach over the client is one in the store. -/
theorem serves_attach (id : VolumeId) (server : ServerId) :
    Serves client policy store (attach policy id server) s ((store s.client).attach id server) := by
  refine serves_look backed patient fun t hstore htime => ?_
  rcases (store s.client).attach_cases id server with ⟨hv, ha⟩ | ⟨v, hv, hcases⟩
  · rw [ha, Store.getById, hv]
    exact serves_done hstore htime
  · rw [Store.getById_of_get? hv]
    rw [← hstore] at hv hcases ⊢
    refine serves_ask (backed.serverExists server t.client) htime fun u _ hsame hwaits => ?_
    rw [← hsame] at hv hcases ⊢
    rcases hcases with ⟨hserver, ha⟩ | ⟨hserver, hheld, ha⟩ | ⟨hserver, hfree, hfull, ha⟩ | ⟨hserver, hfree, hroom, ha⟩ <;>
      rw [ha]
    · simp only [hserver, decide_false]
      exact serves_done rfl hwaits
    · obtain ⟨holder, hholder⟩ := Option.ne_none_iff_exists'.1 hheld
      simp only [hserver, decide_true, hholder, Option.isSome_some, if_true]
      exact serves_done rfl hwaits
    · simp only [hserver, decide_true, hfree, Option.isSome_none, Bool.false_eq_true, if_false]
      obtain ⟨message, hrefused⟩ := backed.attachVolume_full id server u.client v hv hfree hserver hfull
      exact serves_ask hrefused hwaits fun w _ hkept hwaits => serves_done hkept hwaits
    · simp only [hserver, decide_true, hfree, Option.isSome_none, Bool.false_eq_true, if_false]
      exact serves_accepted (backed.attachVolume id server u.client v hv hfree hserver hroom) hwaits
        fun a w hcompletes hleft hwaits => serves_pause hwaits (serves_onVolume unlimited hcompletes hleft hwaits)

/-- Every call is answered as by the store. -/
theorem serves_layer (names : (store s.client).UniqueNames) (c : GatewayCall) :
    Serves client policy store (layer policy c) s ((store s.client).answer c) := by
  cases c with
  | create o => exact serves_create backed unlimited patient o
  | getById id => exact serves_look backed patient fun t hstore htime => serves_done hstore htime
  | getByName name =>
    obtain ⟨v, hreply, hsome, hnone⟩ := backed.getVolumeByName name s.client
    have hfound : found (.ok v) = (store s.client).getByName name := by
      cases v with
      | none =>
        have hmissing : (store s.client).findName name = none :=
          List.find?_eq_none.2 fun w hw hname => hnone rfl ⟨w, hw, of_decide_eq_true hname⟩
        rw [Store.getByName, hmissing]
        rfl
      | some w =>
        obtain ⟨hw, rfl⟩ := hsome w rfl
        rw [Store.getByName, names.findName_eq hw]
        rfl
    rw [Store.answer, ← hfound]
    exact serves_ask hreply patient fun t _ hstore htime => serves_done hstore htime
  | delete id => exact serves_delete backed patient id
  | attach id server => exact serves_attach backed unlimited patient id server
  | detach id server => exact serves_detach backed unlimited patient id server
  | resize id sizeGib => exact serves_resize backed unlimited patient id sizeGib
  | all => exact serves_ask (backed.listVolumes s.client) patient fun t _ hstore htime => serves_done hstore htime

/-! ## Runs of calls -/

/-- A program of gateway calls is run to the answer and the store that the store itself comes to. -/
theorem serves_through (names : (store s.client).UniqueNames) (p : Program gateway α) :
    Serves client policy store (p.through (layer policy)) s ((store s.client).perform p) := by
  induction p generalizing s with
  | done a => exact serves_done rfl patient
  | call c next ih =>
    obtain ⟨hanswer, hstore, htime⟩ := serves_layer backed unlimited patient names c
    have hnames := names.answer c
    rcases hrun : Session.run client policy (layer policy c) s with ⟨r, t⟩
    rw [hrun] at hanswer hstore htime
    obtain rfl : r = _ := hanswer
    dsimp only at hstore
    rw [← hstore] at hnames
    have hrest := ih ((store s.client).answer c).1 htime hnames
    have hwhole : Session.run client policy ((Program.call c next).through (layer policy)) s =
        Session.run client policy ((next ((store s.client).answer c).1).through (layer policy)) t := by
      show Session.run client policy ((layer policy c).bind _) s = _
      rw [Session.run_bind, hrun]
    rw [hstore] at hrest
    exact ⟨hwhole ▸ hrest.answer_eq, hwhole ▸ hrest.store_eq, hwhole ▸ hrest.patient⟩

end Calls

end Serving

/-! ## The store as a provider -/

/-- A store, and for how many polls each action is reported running: the one under way, and those that will be started. -/
structure StoreProvider where
  store : Store
  running : Nat := 0
  delays : List Nat := []

namespace StoreProvider

/-- What the provider says instead of the store. -/
def refusal (e : VolumeError) : ProviderError where
  code :=
    match e with
    | .volumeNotFound | .serverNotFound => .notFound
    | .volumeAlreadyExists => .uniquenessError
    | .attachLimitReached => .volumeLimitReached
    | .lockedServer => .locked
    | _ => .other
  message := e.message

/-- The action that is started last. -/
def action (status : ActionStatus) : Action := ⟨⟨0⟩, status⟩

/-- A change of the store is done at once, and starts an action. -/
def change (p : StoreProvider) {α β : Type} (reply : α → Action → β) :
    Except VolumeError α × Store → Except ProviderError β × StoreProvider
  | (.ok a, s) => (.ok (reply a (action .running)), ⟨s, p.delays.headD 0, p.delays.tail⟩)
  | (.error e, s) => (.error (refusal e), { p with store := s })

def answer : (c : ProviderCall) → StoreProvider → Except ProviderError c.Answer × StoreProvider
  | .createVolume order, p => p.change Prod.mk (p.store.create ⟨order.name, order.sizeGib, 0, order.location, order.labels⟩)
  | .getVolume id, p => (.ok (p.store.volumes.get? id), p)
  | .getVolumeByName name, p => (.ok (p.store.findName name), p)
  | .listVolumes, p => (.ok p.store.volumes.values, p)
  | .deleteVolume id, p =>
    let (r, s) := p.store.delete id
    (r.mapError refusal, { p with store := s })
  | .serverExists server, p => (.ok (decide (server ∈ p.store.servers)), p)
  | .attachVolume id server, p => p.change (fun _ a => a) (p.store.attach id server)
  | .detachVolume id, p => p.change (fun _ a => a) (p.store.detach id none)
  | .resizeVolume id sizeGib, p => p.change (fun _ a => a) (p.store.resize id sizeGib)
  | .getAction _, p =>
    match p.running with
    | 0 => (.ok (action .success), p)
    | n + 1 => (.ok (action .running), { p with running := n })

def client : ProviderClient StoreProvider where
  answer := answer
  patience p := p.running
  patience_lt id p a h hrunning := by
    cases hp : p.running with
    | zero =>
      simp only [answer, hp, Except.ok.injEq] at h
      rw [← h] at hrunning
      nomatch hrunning
    | succ n => simp [answer, hp]

/-- The action under way is done after the polls that report it running. -/
theorem finishes (id : ActionId) (n : Nat) (p : StoreProvider) (h : p.running = n) : Finishes client store id p := by
  induction n generalizing p with
  | zero => exact .now (a := action .success) rfl ⟨by simp [client, answer, h], by simp [client, answer, h]⟩
  | succ n ih =>
    have hpolled : answer (.getAction id) p = (.ok (action .running), { p with running := n }) := by simp [answer, h]
    refine .later (a := action .running) rfl ⟨congrArg Prod.fst hpolled, congrArg (·.2.store) hpolled⟩ (ih _ ?_)
    exact congrArg (·.2.running) hpolled

/-- A change that the store allows is accepted. -/
theorem accepts_change (c : ProviderCall) (p : StoreProvider) {α : Type} (reply : α → Action → c.Answer) {a : α} {left : Store}
    {changed : Except VolumeError α × Store} (hanswer : answer c p = p.change reply changed) (h : changed = (.ok a, left)) :
    Accepts client store c p (reply a) left := by
  subst h
  refine ⟨action .running, ⟨congrArg Prod.fst hanswer, congrArg (·.2.store) hanswer⟩, Or.inr ⟨rfl, finishes _ _ _ rfl⟩⟩

/-- A change that the store refuses is refused, with the code that its error stands for. -/
theorem refuses_change (c : ProviderCall) (p : StoreProvider) {α : Type} (reply : α → Action → c.Answer) {e : VolumeError}
    {changed : Except VolumeError α × Store} (hanswer : answer c p = p.change reply changed) (h : changed = (.error e, p.store)) :
    Refuses client store c p (refusal e).code := by
  subst h
  exact ⟨e.message, congrArg Prod.fst hanswer, congrArg (·.2.store) hanswer⟩

/-- Looks read the store, and what it allows is accepted. -/
theorem backed : Backed client store where
  getVolume _ _ := ⟨rfl, rfl⟩
  getVolumeByName name p := by
    refine ⟨p.store.findName name, ⟨rfl, rfl⟩, fun w hw => ?_, fun hnone => ?_⟩
    · have hfound := List.find?_some hw
      exact ⟨List.mem_of_find?_eq_some hw, of_decide_eq_true hfound⟩
    · rintro ⟨v, hv, hname⟩
      exact List.find?_eq_none.1 hnone v hv (decide_eq_true hname)
  listVolumes _ := ⟨rfl, rfl⟩
  serverExists _ _ := ⟨rfl, rfl⟩
  createVolume_taken o p htaken := by
    have hcreate : p.store.create ⟨o.name, o.minSizeGib, 0, o.location, o.labels⟩ = (.error .volumeAlreadyExists, p.store) :=
      Store.create_of_taken htaken
    exact refuses_change (.createVolume (orderOf o)) p Prod.mk rfl hcreate
  createVolume o p hfree := by
    have hcreate : p.store.create ⟨o.name, o.minSizeGib, 0, o.location, o.labels⟩ =
        (.ok (p.store.newVolume o), p.store.withNew o) := Store.create_of_free hfree
    exact accepts_change (.createVolume (orderOf o)) p Prod.mk rfl hcreate
  deleteVolume id p v hv hfree := by
    have hdelete : p.store.delete id = (.ok (), p.store.forget id) := by simp [Store.delete, hv, hfree, Store.forget]
    constructor
    · simp only [client, answer, hdelete, Except.mapError]
    · simp only [client, answer, hdelete]
  attachVolume_full id server p v hv hfree hserver hfull := by
    have hattach : p.store.attach id server = (.error .attachLimitReached, p.store) := by
      simp [Store.attach, hv, hserver, hfree, hfull]
    exact refuses_change (.attachVolume id server) p (fun _ a => a) rfl hattach
  attachVolume id server p v hv hfree hserver hroom := by
    have hattach : p.store.attach id server = (.ok (), p.store.put id (Store.held id server v)) := by
      simp [Store.attach, hv, hserver, hfree, Nat.not_le.2 hroom, Store.held]
    exact accepts_change (.attachVolume id server) p (fun _ a => a) rfl hattach
  detachVolume id p v hv hheld := by
    obtain ⟨holder, hholder⟩ := Option.ne_none_iff_exists'.1 hheld
    have hdetach : p.store.detach id none = (.ok (), p.store.put id (Store.released v)) := by
      simp [Store.detach, hv, hholder, Store.released]
    exact accepts_change (.detachVolume id) p (fun _ a => a) rfl hdetach
  resizeVolume id sizeGib p v hv hsmall := by
    have hresize : p.store.resize id sizeGib = (.ok (), p.store.put id { v with sizeGib := sizeGib }) := by
      simp [Store.resize, hv, UInt64.not_le.2 hsmall]
    exact accepts_change (.resizeVolume id sizeGib) p (fun _ a => a) rfl hresize

end StoreProvider

/-! ## Agreement -/

/-- Gateway calls have the same answers over a client that is backed by a store as over the store, each of them, however the calls
are chosen, and leave the same store. -/
theorem agrees_with_store {client : ProviderClient σ} {store : σ → Store} (backed : Backed client store) {policy : Policy}
    (unlimited : policy.maxWait = none) {s : Session σ} (patient : s.timeLeft = none) (names : (store s.client).UniqueNames)
    {m : FaultyStore} (calm : m.failures = []) (same : m.store = store s.client) (p : Program gateway α) :
    (Session.run client policy (p.traced.through (layer policy)) s).1 =
        some ((p.run FaultyStore.answer m).1, p.exchanges FaultyStore.answer m) ∧
      store (Session.run client policy (p.traced.through (layer policy)) s).2.client =
        (p.run FaultyStore.answer m).2.store := by
  obtain ⟨hanswer, hstore, _⟩ := serves_through backed unlimited patient names p.traced
  obtain ⟨hmemory, hleft⟩ := FaultyStore.run_of_calm p.traced calm
  rw [run_traced, same] at hmemory hleft
  exact ⟨hanswer.trans (congrArg some hmemory.symm), hstore.trans hleft.symm⟩

/-- A server with one place, and actions that are reported running once, not at all, and twice. -/
def smallServer : StoreProvider := { store := { servers := [⟨3⟩], maxAttachments := 1 }, delays := [1, 0, 2] }

/-- The store behind it, on its own. -/
def smallStore : FaultyStore := { store := smallServer.store }

/-- Calls of which two are refused: a name that is taken, and a second volume for the one place of the server. -/
def busyDay : Program gateway (Except VolumeError Volume) := do
  let _ ← askGateway (.create ⟨"data", 10, 0, "fsn1", .empty⟩)
  let _ ← askGateway (.create ⟨"data", 20, 0, "fsn1", .empty⟩)
  let _ ← askGateway (.create ⟨"logs", 20, 0, "fsn1", .empty⟩)
  let _ ← askGateway (.attach ⟨1⟩ ⟨3⟩)
  let _ ← askGateway (.attach ⟨2⟩ ⟨3⟩)
  askGateway (.getById ⟨1⟩)

/-- The busy day over a server with one place: two of its calls are refused, over the client as in the store. -/
theorem agrees_over_smallServer :
    Backed StoreProvider.client StoreProvider.store ∧ ({} : Policy).maxWait = none ∧ smallServer.store.UniqueNames ∧
      (Session.run StoreProvider.client {} (busyDay.traced.through (layer {})) { client := smallServer }).1 =
        some (.ok ⟨⟨1⟩, "data", 10, "fsn1", "/dev/disk/by-id/scsi-0CloudVol_Volume_1", some ⟨3⟩⟩,
          busyDay.exchanges FaultyStore.answer smallStore) ∧
      (Session.run StoreProvider.client {} (busyDay.traced.through (layer {})) { client := smallServer }).2.client.store =
        (busyDay.run FaultyStore.answer smallStore).2.store := by
  have unlimited : ({} : Policy).maxWait = none := rfl
  have hnames : smallServer.store.UniqueNames := List.nodup_nil
  have hanswer : (busyDay.run FaultyStore.answer smallStore).1 =
      .ok ⟨⟨1⟩, "data", 10, "fsn1", "/dev/disk/by-id/scsi-0CloudVol_Volume_1", some ⟨3⟩⟩ := by decide +kernel
  obtain ⟨hrun, hstore⟩ := agrees_with_store StoreProvider.backed unlimited (s := { client := smallServer }) rfl hnames
    (m := smallStore) rfl rfl busyDay
  exact ⟨StoreProvider.backed, unlimited, hnames, hanswer ▸ hrun, hstore⟩

end Provider

end VolumeDriver
