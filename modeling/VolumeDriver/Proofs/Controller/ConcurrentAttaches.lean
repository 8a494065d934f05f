import VolumeDriver.Proofs.Controller.Calls
import VolumeDriver.Proofs.Gateway.Soundness

/-!
# Publishing to several nodes at once

Calls that publish one volume to nodes run at once, with each other and with calls that neither unpublish nor delete it, and
calls of the gateway may fail. On these terms (`heldTerms`) a volume that a server holds stays with it, under the same path. So
the calls that succeed all name one node, which holds the volume from the first success on, and each tells of the path that the
volume has there (`concurrent_publishes_agree`).
-/

namespace VolumeDriver

open Csi Program

namespace Store

/-- If the volume is stored, its identifier is not still to be given out, and while it is attached its path is set. -/
def PathSet (id : VolumeId) (s : Store) : Prop :=
  ∀ v, s.volumes.get? id = some v → id.val < s.nextId ∧ (v.attachedServer ≠ none → v.linuxDevice ≠ "")

/-- A step of the store that does not use up the identifiers leaves the path set. -/
theorem PathSet.step {id : VolumeId} {s t : Store} {c : GatewayCall} (h : s.PathSet id) (hstep : s.Step c t)
    (hnext : s.nextId ≤ t.nextId) : t.PathSet id := by
  cases hstep with
  | unchanged => exact h
  | created o =>
    intro v hv
    rcases SortedMap.of_get?_insert hv with ⟨rfl, rfl⟩ | hold
    · exact ⟨nextId_lt hnext, fun hheld => absurd rfl hheld⟩
    · exact ⟨UInt64.lt_trans (h v hold).1 (nextId_lt hnext), (h v hold).2⟩
  | deleted j => exact fun v hv => h v (SortedMap.of_get?_erase hv)
  | attached j server u hu =>
    intro v hv
    rcases SortedMap.of_get?_insert hv with ⟨rfl, rfl⟩ | hold
    · exact ⟨(h u hu).1, fun _ => devicePath_ne_empty _⟩
    · exact h v hold
  | detached j server u hu =>
    intro v hv
    rcases SortedMap.of_get?_insert hv with ⟨rfl, rfl⟩ | hold
    · exact ⟨(h u hu).1, fun hheld => absurd rfl hheld⟩
    · exact h v hold
  | resized j sizeGib u hu =>
    intro v hv
    rcases SortedMap.of_get?_insert hv with ⟨rfl, rfl⟩ | hold
    · exact h u hu
    · exact h v hold

end Store

namespace FaultyStore

/-- The server holds the volume. -/
def Holder (s : FaultyStore) (id : VolumeId) (server : ServerId) : Prop :=
  ∃ v, s.store.volumes.get? id = some v ∧ v.attachedServer = some server

/-- If a server holds the volume in the first gateway, it does in the second, under the same path. -/
def StaysHeld (id : VolumeId) (s t : FaultyStore) : Prop :=
  ∀ v, s.store.volumes.get? id = some v → v.attachedServer ≠ none →
    ∃ w, t.store.volumes.get? id = some w ∧ w.attachedServer = v.attachedServer ∧ w.linuxDevice = v.linuxDevice

variable {id : VolumeId} {s t u : FaultyStore} {server : ServerId}

theorem StaysHeld.refl (s : FaultyStore) : StaysHeld id s s := fun v hv _ => ⟨v, hv, rfl, rfl⟩

theorem StaysHeld.trans (h : StaysHeld id s t) (h' : StaysHeld id t u) : StaysHeld id s u := by
  intro v hv hheld
  obtain ⟨w, hw, hserver, hpath⟩ := h v hv hheld
  obtain ⟨x, hx, hserver', hpath'⟩ := h' w hw (by rw [hserver]; exact hheld)
  exact ⟨x, hx, hserver'.trans hserver, hpath'.trans hpath⟩

/-- A volume has one holder. -/
theorem Holder.unique {server' : ServerId} (h : s.Holder id server) (h' : s.Holder id server') : server = server' := by
  obtain ⟨v, hv, hserver⟩ := h
  obtain ⟨w, hw, hserver'⟩ := h'
  rw [hv] at hw
  cases hw
  rw [hserver] at hserver'
  cases hserver'
  rfl

theorem Holder.later (h : s.Holder id server) (hst : StaysHeld id s t) : t.Holder id server := by
  obtain ⟨v, hv, hserver⟩ := h
  obtain ⟨w, hw, hserver', _⟩ := hst v hv (by rw [hserver]; simp)
  exact ⟨w, hw, hserver'.trans hserver⟩

/-- A call that neither detaches nor deletes the volume keeps it where it is. -/
theorem StaysHeld.answer {c : GatewayCall} (hdelete : c ≠ .delete id) (hdetach : ∀ server, c ≠ .detach id server)
    (hs : s.store.PathSet id) : StaysHeld id s (answer c s).2 := by
  intro v hv hheld
  exact (FaultyStore.step_answer c s).stays_held hv (hs v hv).1 hheld hdelete hdetach

/-- A volume that was attached is held by the server it was attached to. -/
theorem holder_of_attach (h : (FaultyStore.answer (.attach id server) s).1 = .ok ()) :
    (FaultyStore.answer (.attach id server) s).2.Holder id server := by
  obtain ⟨hok, hstore⟩ := answer_of_ok h
  rw [Holder, hstore]
  exact Store.held_of_attach hok

/-- A volume that is found by its identifier is stored, then and after the call. -/
theorem stored_of_getById {v : Volume} (h : (FaultyStore.answer (.getById id) s).1 = .ok v) :
    (FaultyStore.answer (.getById id) s).2.store.volumes.get? id = some v := by
  obtain ⟨hok, hstore⟩ := answer_of_ok h
  rw [hstore]
  exact Store.get?_of_getById hok

end FaultyStore

open FaultyStore

/-- Terms on which no program detaches or deletes the volume; calls may fail. -/
def heldTerms (id : VolumeId) : Terms where
  Allows c := c ≠ .delete id ∧ ∀ server, c ≠ .detach id server
  Holds s := s.store.PathSet id
  Keeps := StaysHeld id
  mayFail := True
  refl := .refl
  trans := .trans
  keeps_answer {c s} hc hs hnext := by
    refine ⟨.answer hc.1 hc.2 hs, ?_⟩
    rcases answer_cases c s with ⟨_, hstore⟩ | ⟨_, hstore⟩ <;> rw [hstore] at hnext ⊢
    · exact hs
    · exact hs.step (Store.step_answer c s.store) hnext
  keeps_failNext _ op e {s} hs := ⟨.refl s, hs⟩

variable {id : VolumeId} {server : ServerId}

/-- A program that attaches the volume with success has seen the server hold it, which then lasts. -/
theorem ensures_attach (id : VolumeId) (server : ServerId) (xs : List (Exchange gateway)) (s : FaultyStore) :
    (heldTerms id).Ensures (fun answer _ t => answer = .ok () → t.Holder id server) (Idempotent.attach id server) xs s := by
  intro t _ _
  cases hreply : (FaultyStore.answer (.attach id server) t).1 with
  | ok _ => exact fun u hu _ => (holder_of_attach hreply).later hu.1
  | error e =>
    -- whatever the error, what counts is who holds the volume when it is looked at afterwards
    intro u _ _
    cases hfound : (FaultyStore.answer (.getById id) u).1 with
    | error _ => exact fun w _ hok => by cases hok
    | ok v =>
      have hstored := stored_of_getById hfound
      intro w hw hok
      by_cases hserver : v.attachedServer = some server
      · exact Holder.later ⟨v, hstored, hserver⟩ hw.1
      · rw [if_neg hserver] at hok
        cases hok

/-- The server holds the volume under a path that is set, and the context tells of this path. -/
def FaultyStore.HeldAt (s : FaultyStore) (id : VolumeId) (server : ServerId) (context : StringMap) : Prop :=
  ∃ v, s.store.volumes.get? id = some v ∧ v.attachedServer = some server ∧ v.linuxDevice ≠ "" ∧
    context = SortedMap.empty.insert Plugin.devicePathKey v.linuxDevice

/-- Who holds a volume at a path holds it. -/
theorem FaultyStore.HeldAt.holder {s : FaultyStore} {context : StringMap} (h : s.HeldAt id server context) :
    s.Holder id server := by
  obtain ⟨v, hv, hserver, _⟩ := h
  exact ⟨v, hv, hserver⟩

namespace Controller

/-- A request to publish the volume that succeeds names the server that holds it. -/
theorem ensures_publishVolume {r : Request.ControllerPublishVolume} (hid : VolumeId.ofString r.volumeId = .ok id)
    (xs : List (Exchange gateway)) (s : FaultyStore) :
    (heldTerms id).Ensures
      (fun answer _ t => ∀ context, answer = .ok context →
        ∃ server, ServerId.ofString r.nodeId = .ok server ∧ t.HeldAt id server context)
      ((publishVolume r).through Idempotent.layer) xs s := by
  unfold publishVolume
  split
  case isTrue => exact fun t _ context hok => by cases hok
  split
  case isTrue => exact fun t _ context hok => by cases hok
  split
  case h_1 => exact fun t _ context hok => by cases hok
  case h_2 => exact fun t _ context hok => by cases hok
  case h_3 id' server hid' hserver =>
    rw [hid] at hid'
    cases hid'
    rw [bind_eq, through_ask_bind]
    refine (ensures_attach id server xs s).bind fun answer ys t hanswer => ?_
    cases answer with
    | error e => exact fun u _ context hok => by cases hok
    | ok _ =>
      intro u hu hlater
      cases hfound : (FaultyStore.answer (.getById id) u).1 with
      | error e => exact fun w _ context hok => by cases hok
      | ok v =>
        have hstored := stored_of_getById hfound
        obtain ⟨v', hv', hheld⟩ := hanswer _ ⟨(heldTerms id).trans hu.1 hlater.1, hlater.2⟩ rfl
        rw [hstored] at hv'
        cases hv'
        intro w hw context hok
        cases hok
        have hattached : v.attachedServer ≠ none := by simp [hheld]
        obtain ⟨x, hx, hserver', hpath⟩ := hw.1 v hstored hattached
        refine ⟨server, hserver, x, hx, hserver'.trans hheld, ?_, by rw [hpath]⟩
        rw [hpath]
        exact (hlater.2 v hstored).2 hattached

/-- The calls that the terms are for: none unpublishes or deletes the volume. -/
def Leaves (id : VolumeId) (call : ControllerCall) : Prop :=
  (∀ m, call = .controllerUnpublishVolume m → VolumeId.ofString m.volumeId ≠ .ok id) ∧
    ∀ m, call = .deleteVolume m → VolumeId.ofString m.volumeId ≠ .ok id

/-- A call that leaves the volume published makes only calls that do so. -/
theorem only_program_of_leaves (c : Controller) {call : ControllerCall} (h : Leaves id call) :
    (c.program call).Only (heldTerms id).Allows := by
  refine (only_program c call).mono ?_
  rintro e ⟨d, hd, he⟩
  have hdelete : d ≠ .delete id := by
    rintro rfl
    cases hd with
    | looks hlooks => exact hlooks
    | delete named => exact h.2 _ rfl named
  have hdetach : ∀ server, d ≠ .detach id server := by
    rintro server rfl
    cases hd with
    | looks hlooks => exact hlooks
    | detach named => exact h.1 _ rfl named
  cases he with
  | itself => exact ⟨hdelete, hdetach⟩
  | looks hlooks =>
    refine ⟨?_, ?_⟩
    · rintro rfl
      exact hlooks
    · rintro server rfl
      exact hlooks
  | detaches j =>
    refine ⟨nofun, ?_⟩
    rintro server hj
    cases hj
    exact hdelete rfl

/-- Of a call that publishes the volume: if it succeeds, its node holds the volume, and the reply tells of the path there. -/
def Publishes (id : VolumeId) (call : ControllerCall) (answer : Except Status ControllerReply) (s : FaultyStore) : Prop :=
  ∀ m reply, call = .controllerPublishVolume m → VolumeId.ofString m.volumeId = .ok id → answer = .ok reply →
    ∃ server context, ServerId.ofString m.nodeId = .ok server ∧ reply = .published context ∧ s.HeldAt id server context

/-- Whatever others do meanwhile on these terms, a call that publishes the volume does so if it succeeds. -/
theorem ensures_publication (c : Controller) (id : VolumeId) (call : ControllerCall) (s : FaultyStore) :
    (heldTerms id).Ensures (fun answer _ t => Publishes id call answer t) (c.program call) [] s := by
  cases call with
  | controllerPublishVolume m =>
    by_cases hid : VolumeId.ofString m.volumeId = .ok id
    · have hrespond := ensures_respond (T := heldTerms id) (s := s) (Request.ControllerPublishVolume.ofMessage m)
        (fun context => .ok (ControllerReply.published context)) fun r hr =>
          ensures_publishVolume (r := r) (by rw [(Request.ControllerPublishVolume.of_ofMessage hr).1, hid]) [] s
      refine Terms.Ensures.mono hrespond fun answer ys t hanswer => ?_
      rintro m' reply ⟨⟩ _ rfl
      rcases hanswer with ⟨e, _, he⟩ | ⟨r, x, hr, hx, hdeliver⟩
      · cases he
      · cases x with
        | error e => cases hdeliver
        | ok context =>
          obtain ⟨server, hserver, hheld⟩ := hx context rfl
          rw [(Request.ControllerPublishVolume.of_ofMessage hr).2] at hserver
          cases hdeliver
          exact ⟨server, context, hserver, rfl, hheld⟩
    · refine Terms.ensures_of_forall (fun answer ys t => ?_) _
      rintro m' reply ⟨⟩ hid'
      exact absurd hid' hid
  | _ => exact Terms.ensures_of_forall (fun answer ys t m reply hcall => by cases hcall) _

/-- A call that has succeeded by some time names a server that holds the volume then. -/
theorem publishes_of_result (c : Controller) {calls : List ControllerCall} (hcalls : ∀ call ∈ calls, Leaves id call)
    {s : FaultyStore} (hs : (heldTerms id).Holds s) {turns : List Turn}
    (hwraps : (Pool.start (calls.map c.program) s).NeverWraps turns) {i : Nat} {call : ControllerCall}
    {answer : Except Status ControllerReply} (hcall : calls[i]? = some call)
    (hanswer : ((Pool.start (calls.map c.program) s).run turns).result? i = some answer) :
    Publishes id call answer ((Pool.start (calls.map c.program) s).run turns).shared := by
  have hensured := Terms.ensured_run (fun call answer _ t => Publishes id call answer t)
    (fun call hcall => only_program_of_leaves c (hcalls call hcall)) (fun call _ => ensures_publication c id call s) hs
    hwraps (fun _ _ _ => trivial)
  exact hensured.result hanswer call hcall

/-- Calls of the controller run at once, and calls of the gateway may fail. No call unpublishes or deletes the volume, whose
path is set exactly while it is attached, and identifiers have not run out. Then there is one server that every call names
which has published the volume, at any time; that server holds the volume from then on, and the reply tells of its path. -/
theorem concurrent_publishes_agree (c : Controller) {calls : List ControllerCall} (hcalls : ∀ call ∈ calls, Leaves id call)
    {s : FaultyStore} (hpath : ∀ v, s.store.volumes.get? id = some v → (v.linuxDevice ≠ "" ↔ v.attachedServer ≠ none))
    (hid : ∀ v, s.store.volumes.get? id = some v → id.val < s.store.nextId) {turns : List Turn}
    (hwraps : (Pool.start (calls.map c.program) s).NeverWraps turns) :
    ∃ server, ∀ first rest, first ++ rest = turns → ∀ i m reply, calls[i]? = some (.controllerPublishVolume m) →
      VolumeId.ofString m.volumeId = .ok id →
      ((Pool.start (calls.map c.program) s).run first).result? i = some (.ok reply) →
      ServerId.ofString m.nodeId = .ok server ∧ ∃ v,
        ((Pool.start (calls.map c.program) s).run first).shared.store.volumes.get? id = some v ∧
          v.attachedServer = some server ∧ v.linuxDevice ≠ "" ∧
          reply = .published (SortedMap.empty.insert Plugin.devicePathKey v.linuxDevice) := by
  have hholds : (heldTerms id).Holds s := fun v hv => ⟨hid v hv, (hpath v hv).2⟩
  have hpublishes {first rest : List Turn} (hturns : first ++ rest = turns) {i : Nat} {call : ControllerCall}
      {answer : Except Status ControllerReply} (hcall : calls[i]? = some call)
      (hanswer : ((Pool.start (calls.map c.program) s).run first).result? i = some answer) :
      Publishes id call answer ((Pool.start (calls.map c.program) s).run first).shared := by
    rw [← hturns] at hwraps
    exact publishes_of_result c hcalls hholds hwraps.of_append hcall hanswer
  -- since a call that is done stays done, the server that it names holds the volume in the end
  have hend {first rest : List Turn} (hturns : first ++ rest = turns) {i : Nat} {m : Message.ControllerPublishVolume}
      {reply : ControllerReply} (hcall : calls[i]? = some (.controllerPublishVolume m))
      (hm : VolumeId.ofString m.volumeId = .ok id)
      (hanswer : ((Pool.start (calls.map c.program) s).run first).result? i = some (.ok reply)) :
      ∃ server, ServerId.ofString m.nodeId = .ok server ∧
        ((Pool.start (calls.map c.program) s).run turns).shared.Holder id server := by
    have hdone : ((Pool.start (calls.map c.program) s).run turns).result? i = some (.ok reply) := by
      rw [← hturns, Pool.run_append]
      exact Pool.result?_run hanswer rest
    obtain ⟨server, _, hnode, _, hat⟩ := hpublishes (List.append_nil turns) hcall hdone m reply rfl hm rfl
    exact ⟨server, hnode, hat.holder⟩
  by_cases hheld : ∃ server, ((Pool.start (calls.map c.program) s).run turns).shared.Holder id server
  · obtain ⟨server, hserver⟩ := hheld
    refine ⟨server, fun first rest hturns i m reply hcall hm hanswer => ?_⟩
    obtain ⟨server', context, hnode, hreply, v, hv, hv', hdevice, hcontext⟩ :=
      hpublishes hturns hcall hanswer m reply rfl hm rfl
    obtain ⟨server'', hnode', hholder⟩ := hend hturns hcall hm hanswer
    rw [hnode] at hnode'
    cases hnode'
    rw [hserver.unique hholder]
    exact ⟨hnode, v, hv, hv', hdevice, by rw [hreply, hcontext]⟩
  · refine ⟨⟨0⟩, fun first rest hturns i m reply hcall hm hanswer => ?_⟩
    obtain ⟨server, _, hholder⟩ := hend hturns hcall hm hanswer
    exact absurd ⟨server, hholder⟩ hheld

/-- A gateway with a volume that is not attached, and two servers. -/
def detachedVolume : FaultyStore :=
  { store := { Store.insert {} ⟨⟨7⟩, "a", 15, "fsn1", "", none⟩ with servers := [⟨1⟩, ⟨2⟩] } }

/-- A call that publishes the volume to a node. -/
def publication (node : String) : ControllerCall :=
  .controllerPublishVolume { volumeId := "7", nodeId := node, volumeCapability := some ⟨some 1, some .block⟩ }

/-- Three calls publish the volume. The first one's attachment fails, the second one's takes effect, and then all look. -/
def rivalPublications : List ControllerCall := [publication "1", publication "2", publication "2", .listVolumes ⟨0, ""⟩]

def rivalTurns : List Turn := [.fail .attach .lockedServer, .next 0, .next 1, .next 2, .next 3, .next 0, .next 1, .next 2, .next 2]

/-- Two nodes that want one volume at the same time. -/
theorem rival_publications_agree :
    (∀ call ∈ rivalPublications, Leaves ⟨7⟩ call) ∧
      (∀ v, detachedVolume.store.volumes.get? ⟨7⟩ = some v → (v.linuxDevice ≠ "" ↔ v.attachedServer ≠ none)) ∧
      (∀ v, detachedVolume.store.volumes.get? ⟨7⟩ = some v → (7 : UInt64) < detachedVolume.store.nextId) ∧
      (Pool.start (rivalPublications.map (program ⟨"fsn1", .empty⟩)) detachedVolume).NeverWraps rivalTurns ∧
      (∃ server, ∀ first rest, first ++ rest = rivalTurns → ∀ i m reply,
        rivalPublications[i]? = some (.controllerPublishVolume m) → VolumeId.ofString m.volumeId = .ok ⟨7⟩ →
        ((Pool.start (rivalPublications.map (program ⟨"fsn1", .empty⟩)) detachedVolume).run first).result? i =
          some (.ok reply) →
        ServerId.ofString m.nodeId = .ok server ∧ ∃ v,
          ((Pool.start (rivalPublications.map (program ⟨"fsn1", .empty⟩)) detachedVolume).run first).shared.store.volumes.get?
              ⟨7⟩ = some v ∧
            v.attachedServer = some server ∧ v.linuxDevice ≠ "" ∧
            reply = .published (SortedMap.empty.insert Plugin.devicePathKey v.linuxDevice)) ∧
      ((Pool.start (rivalPublications.map (program ⟨"fsn1", .empty⟩)) detachedVolume).run rivalTurns).result? 1 =
        some (.ok (.published (SortedMap.empty.insert Plugin.devicePathKey (Store.devicePath ⟨7⟩)))) := by
  have hcalls : ∀ call ∈ rivalPublications, Leaves ⟨7⟩ call := by
    intro call hcall
    simp only [rivalPublications, publication, List.mem_cons, List.not_mem_nil, or_false] at hcall
    rcases hcall with rfl | rfl | rfl | rfl <;> exact ⟨nofun, nofun⟩
  have hpath : ∀ v, detachedVolume.store.volumes.get? ⟨7⟩ = some v → (v.linuxDevice ≠ "" ↔ v.attachedServer ≠ none) := by
    rintro v ⟨⟩
    decide
  have hid : ∀ v, detachedVolume.store.volumes.get? ⟨7⟩ = some v → (7 : UInt64) < detachedVolume.store.nextId :=
    fun _ _ => by decide
  have hwraps : (Pool.start (rivalPublications.map (program ⟨"fsn1", .empty⟩)) detachedVolume).NeverWraps rivalTurns :=
    Pool.neverWraps_of_lt (by decide)
  exact ⟨hcalls, hpath, hid, hwraps, concurrent_publishes_agree _ hcalls hpath hid hwraps, rfl⟩

end Controller

end VolumeDriver
