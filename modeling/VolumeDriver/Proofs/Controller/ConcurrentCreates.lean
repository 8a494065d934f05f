import VolumeDriver.Proofs.Controller.Calls
import VolumeDriver.Proofs.Gateway.Lasting

/-!
# Making one volume in several calls at once

Calls that make a volume of one name run at once, with each other and with any calls but those that delete. A creation first
tries to make the volume, and looks for the name only if that failed; in between, others may do what they like. On these terms
(`lastingTerms`) a stored volume stays, with its identifier and its name, and names stay distinct, so what the creation looks for is
there. All creations that succeed thus tell of one volume, and one is refused only if the volume that it found will not do
(`concurrent_creates_agree`).
-/

namespace VolumeDriver

open Csi Program

namespace Store

variable {s t : Store} {name : String} {id : VolumeId}

/-- A stored volume has the name, and has told this identifier. -/
def Named (s : Store) (name : String) (id : VolumeId) : Prop := ∃ v ∈ s.volumes.values, v.name = name ∧ v.id = id

/-- A name belongs to one identifier. -/
theorem Distinct.named_unique (h : s.Distinct) {id' : VolumeId} (hid : s.Named name id) (hid' : s.Named name id') : id = id' := by
  obtain ⟨v, hv, hname, rfl⟩ := hid
  obtain ⟨w, hw, hname', rfl⟩ := hid'
  obtain ⟨key, hkey⟩ := SortedMap.mem_values_iff.1 hv
  rw [h.eq_of_name hkey hw (hname'.trans hname.symm)]

/-- There is at most one volume of a name. -/
theorem Distinct.countP_name_le_one (h : s.Distinct) (name : String) : s.volumes.values.countP (·.name = name) ≤ 1 := by
  have hcount := List.nodup_iff_count.1 h.names_nodup name
  rw [List.count, List.countP_map] at hcount
  refine Nat.le_trans (Nat.le_of_eq (List.countP_congr fun v _ => ?_)) hcount
  simp

/-- Every stored volume is stored later on, grown or not. -/
def Lasts (s t : Store) : Prop := ∀ key v, s.volumes.get? key = some v → ∃ w, t.volumes.get? key = some w ∧ v.Grown w

theorem Lasts.refl (s : Store) : s.Lasts s := fun _ v hv => ⟨v, hv, .refl v⟩

theorem Lasts.trans {u : Store} (h : s.Lasts t) (h' : t.Lasts u) : s.Lasts u := by
  intro key v hv
  obtain ⟨w, hw, hgrown⟩ := h key v hv
  obtain ⟨x, hx, hgrown'⟩ := h' key w hw
  exact ⟨x, hx, hgrown.trans hgrown'⟩

/-- Each volume of a store that lasts is still there, grown perhaps. -/
theorem Lasts.mem (h : s.Lasts t) {v : Volume} (hv : v ∈ s.volumes.values) : ∃ w ∈ t.volumes.values, v.Grown w := by
  obtain ⟨key, hkey⟩ := SortedMap.mem_values_iff.1 hv
  obtain ⟨w, hw, hgrown⟩ := h key v hkey
  exact ⟨w, SortedMap.mem_values_iff.2 ⟨key, hw⟩, hgrown⟩

/-- A volume keeps its name. -/
theorem Named.later (h : s.Named name id) (hst : s.Lasts t) : t.Named name id := by
  obtain ⟨v, hv, hname, hid⟩ := h
  obtain ⟨w, hw, hgrown⟩ := hst.mem hv
  exact ⟨w, hw, hgrown.name_eq.trans hname, hgrown.id_eq.trans hid⟩

theorem Taken.later (h : s.Taken name) (hst : s.Lasts t) : t.Taken name := by
  obtain ⟨v, hv, hname⟩ := h
  obtain ⟨w, hw, hgrown⟩ := hst.mem hv
  exact ⟨w, hw, hgrown.name_eq.trans hname⟩

/-- A name that is taken is found. -/
theorem getByName_of_taken (h : s.Taken name) : ∃ v ∈ s.volumes.values, v.name = name ∧ s.getByName name = .ok v := by
  unfold getByName
  cases hfind : s.findName name with
  | none =>
    obtain ⟨v, hv, hname⟩ := h
    exact absurd (decide_eq_true hname) (List.find?_eq_none.1 hfind v hv)
  | some v =>
    have hname := List.find?_some hfind
    exact ⟨v, List.mem_of_find?_eq_some hfind, of_decide_eq_true hname, rfl⟩

end Store

/-- Terms on which no program deletes, and no call fails unless the store refuses it. -/
def lastingTerms : Terms where
  Allows c := ∀ id, c ≠ .delete id
  Holds s := s.store.Distinct ∧ s.failures = []
  Keeps s t := s.store.Lasts t.store
  mayFail := False
  refl s := .refl s.store
  trans := .trans
  keeps_answer {c s} hc hs hnext := by
    rw [FaultyStore.answer_of_calm hs.2] at hnext ⊢
    have hstep := Store.step_answer c s.store
    exact ⟨fun key v hv => hstep.lasts hv (hs.1.id_lt key v hv) (hc key), hs.1.step hstep hnext, hs.2⟩
  keeps_failNext h := h.elim

/-- A program that makes a volume tells of one that has the name, or has found one of the name that will not do. -/
theorem ensures_create (o : CreateOptions) (s : FaultyStore) :
    lastingTerms.Ensures
      (fun answer xs t =>
        (∃ v, answer = .ok v ∧ t.store.Named o.name v.id) ∨
          (answer = .error .volumeAlreadyExists ∧
            ∃ v, (⟨.getByName o.name, .ok v⟩ : Exchange gateway) ∈ xs ∧ o.accepts v = false))
      (Idempotent.create o) [] s := by
  intro t ht _
  rw [FaultyStore.answer_of_calm ht.2.2]
  rw [Store.answer]
  by_cases htaken : t.store.Taken o.name
  · rw [Store.create_of_taken htaken]
    intro u hu _
    rw [FaultyStore.answer_of_calm hu.2.2]
    obtain ⟨v, hv, hname, hget⟩ := Store.getByName_of_taken (htaken.later hu.1)
    rw [Store.answer, hget]
    intro w hw
    cases haccepts : o.accepts v with
    | true => exact Or.inl ⟨v, by simp, Store.Named.later ⟨v, hv, hname, rfl⟩ hw.1⟩
    | false => exact Or.inr ⟨by simp, v, by simp, haccepts⟩
  · rw [Store.create_of_free htaken]
    intro u hu
    refine Or.inl ⟨_, rfl, Store.Named.later ⟨_, SortedMap.mem_values_insert_self _ _ _, rfl, rfl⟩ hu.1⟩

/-! ## Statuses of a creation -/

/-- A message that is no request is invalid. -/
theorem Csi.Request.CreateVolume.code_of_ofMessage {m : Message.CreateVolume} {e : Status} (h : ofMessage m = .error e) :
    e.code = .invalidArgument := (checks_ofMessage m).code_of_error h

namespace Controller

/-- A request that cannot be met is not one for a volume that exists. -/
theorem code_of_createOptions {c : Controller} {r : Request.CreateVolume} {e : Refusal} (h : c.createOptions r = .error e) :
    e.status.code ≠ .alreadyExists := by
  unfold createOptions at h
  split at h
  · cases h
    nofun
  split at h
  · cases h
    nofun
  split at h
  · cases h
    nofun
  · cases h

/-- The options of a request have its name. -/
theorem name_of_createOptions {c : Controller} {r : Request.CreateVolume} {o : CreateOptions} (h : c.createOptions r = .ok o) :
    o.name = r.name := (of_createOptions h).1

/-! ## Creations at once -/

/-- The volume that was found by the name is not one that the options of the request accept. -/
def FoundUnfit (c : Controller) (r : Request.CreateVolume) (xs : List (Exchange gateway)) : Prop :=
  ∃ o v, c.createOptions r = .ok o ∧ (⟨.getByName r.name, .ok v⟩ : Exchange gateway) ∈ xs ∧ o.accepts v = false

/-- Whatever others do meanwhile on these terms, a volume that is answered has the name that was asked for, and a name is said to be
taken only for a volume that was looked at and does not fit. -/
theorem ensures_createVolume (c : Controller) (r : Request.CreateVolume) (s : FaultyStore) :
    lastingTerms.Ensures
      (fun answer xs t =>
        (∀ info, answer = .ok info → ∃ id, t.store.Named r.name id ∧ info.volumeId = toString id) ∧
          ∀ e : Refusal, answer = .error e → e.status.code = .alreadyExists → c.FoundUnfit r xs)
      ((c.createVolume r).through Idempotent.layer) [] s := by
  unfold createVolume
  split
  case h_1 e hrefused =>
    refine fun t _ => ⟨nofun, ?_⟩
    rintro _ ⟨⟩ hcode
    exact absurd hcode (code_of_createOptions hrefused)
  case h_2 o ho =>
    rw [bind_eq, through_ask_bind]
    refine (ensures_create o s).bind fun answer xs t hanswer => ?_
    rw [name_of_createOptions ho] at hanswer
    cases answer with
    | ok v =>
      refine fun u hu => ⟨?_, nofun⟩
      rintro _ ⟨⟩
      rcases hanswer u hu with ⟨_, ⟨⟩, hnamed⟩ | ⟨hrefused, _⟩
      · exact ⟨v.id, hnamed, rfl⟩
      · cases hrefused
    | error e =>
      have hunfit : ∀ u, lastingTerms.Later t u → e = .volumeAlreadyExists ∧ c.FoundUnfit r xs := by
        intro u hu
        rcases hanswer u hu with ⟨_, ⟨⟩, _⟩ | ⟨hrefused, v, hread, haccepts⟩
        cases hrefused
        exact ⟨rfl, o, v, ho, hread, haccepts⟩
      cases e with
      | volumeAlreadyExists => exact fun u hu => ⟨nofun, fun _ _ _ => (hunfit u hu).2⟩
      | _ => exact fun u hu => by cases (hunfit u hu).1

/-- A reply that tells of a volume tells of the one that the service answered. -/
theorem of_deliver_created {x : Except Refusal VolumeInfo} {reply : ControllerReply}
    (h : deliver (fun info => ControllerReply.created <$> info.toMessage) x = .ok reply) :
    ∃ info v, x = .ok info ∧ reply = .created v ∧ v.volumeId = info.volumeId := by
  cases x with
  | error e => cases h
  | ok info =>
    dsimp only [deliver, VolumeInfo.toMessage, Functor.map, Except.map, Bind.bind, Except.bind] at h
    cases hbytes : wireBytes info.capacityBytes "Volume.capacity_bytes overflows int64" with
    | error e =>
      rw [hbytes] at h
      cases h
    | ok bytes =>
      rw [hbytes] at h
      cases h
      exact ⟨info, _, rfl, rfl, rfl⟩

/-- A creation that is refused as one for a volume that exists was refused so by the service. -/
theorem of_deliver_refused {x : Except Refusal VolumeInfo} {e : Status}
    (h : deliver (fun info => ControllerReply.created <$> info.toMessage) x = .error e) (hcode : e.code = .alreadyExists) :
    ∃ refusal : Refusal, x = .error refusal ∧ refusal.status = e := by
  cases x with
  | error refusal =>
    cases h
    exact ⟨refusal, rfl, rfl⟩
  | ok info =>
    -- a size that a message cannot hold is out of range
    dsimp only [deliver, VolumeInfo.toMessage, Functor.map, Except.map, Bind.bind, Except.bind] at h
    cases hbytes : wireBytes info.capacityBytes "Volume.capacity_bytes overflows int64" with
    | ok bytes =>
      rw [hbytes] at h
      cases h
    | error e' =>
      rw [hbytes] at h
      cases h
      unfold wireBytes at hbytes
      split at hbytes
      · cases hbytes
        cases hcode
      · cases hbytes

/-- Of a call that makes a volume: if it succeeds, it tells of the stored volume of the name, and if it is refused as one that
exists, it found one that will not do. -/
structure Creates (c : Controller) (call : ControllerCall) (answer : Except Status ControllerReply)
    (xs : List (Exchange gateway)) (s : FaultyStore) : Prop where
  created : ∀ m reply, call = .createVolume m → answer = .ok reply →
    ∃ v id, reply = .created v ∧ v.volumeId = toString id ∧ s.store.Named m.name id
  refused : ∀ m e, call = .createVolume m → answer = .error e → e.code = .alreadyExists →
    ∃ r, Request.CreateVolume.ofMessage m = .ok r ∧ c.FoundUnfit r xs

/-- Of calls that create nothing there is nothing to show. -/
theorem creates_of_ne {c : Controller} {call : ControllerCall} (h : ∀ m, call ≠ .createVolume m)
    (answer : Except Status ControllerReply) (xs : List (Exchange gateway)) (s : FaultyStore) : Creates c call answer xs s :=
  ⟨fun m _ hcall => absurd hcall (h m), fun m _ hcall => absurd hcall (h m)⟩

/-- Whatever others do meanwhile on these terms, a call to create a volume ends as it should. -/
theorem ensures_creation (c : Controller) (call : ControllerCall) (s : FaultyStore) :
    lastingTerms.Ensures (Creates c call) (c.program call) [] s := by
  cases call with
  | createVolume m =>
    have hrespond := ensures_respond (T := lastingTerms) (s := s) (Request.CreateVolume.ofMessage m)
      (fun info : VolumeInfo => ControllerReply.created <$> info.toMessage) fun r _ =>
        ensures_createVolume c r s
    refine Terms.Ensures.mono hrespond fun answer ys t hanswer => ⟨?_, ?_⟩
    · rintro m' reply ⟨⟩ rfl
      rcases hanswer with ⟨e, _, he⟩ | ⟨r, x, hr, ⟨hnamed, _⟩, hdeliver⟩
      · cases he
      · obtain ⟨info, v, rfl, hreply, hv⟩ := of_deliver_created hdeliver.symm
        obtain ⟨id, hid, htold⟩ := hnamed info rfl
        rw [(Request.CreateVolume.of_ofMessage hr).1] at hid
        exact ⟨v, id, hreply, hv.trans htold, hid⟩
    · rintro m' e ⟨⟩ rfl hcode
      rcases hanswer with ⟨e', he', heq⟩ | ⟨r, x, hr, ⟨_, hunfit⟩, hdeliver⟩
      · cases heq
        rw [Request.CreateVolume.code_of_ofMessage he'] at hcode
        cases hcode
      · obtain ⟨refusal, rfl, rfl⟩ := of_deliver_refused hdeliver.symm hcode
        exact ⟨r, hr, hunfit refusal rfl hcode⟩
  | _ => exact Terms.ensures_of_forall (creates_of_ne fun m hm => by cases hm) _

/-- Calls other than deletions make no deletions. -/
theorem only_program_of_not_delete (c : Controller) {call : ControllerCall} (h : ∀ m, call ≠ .deleteVolume m) :
    (c.program call).Only lastingTerms.Allows := by
  refine (only_program c call).mono ?_
  rintro e ⟨d, hd, he⟩ id rfl
  cases he with
  | itself =>
    cases hd with
    | looks hlooks => exact hlooks
    | delete => exact h _ rfl
  | looks hlooks => exact hlooks

/-- Calls of the controller run at once, none of which deletes. Names are distinct, identifiers have not run out, and no call of
the gateway is made to fail. Then at any time at most one stored volume has the name. There is one identifier which every call
tells that has made a volume of the name, and a call is refused as one for a volume that exists only if the volume that it found
by the name is not of the size or the location that it asks for. -/
theorem concurrent_creates_agree (c : Controller) (name : String) {calls : List ControllerCall}
    (hcalls : ∀ m, .deleteVolume m ∉ calls) {s : FaultyStore} (hs : s.store.Distinct) (hcalm : s.failures = [])
    (schedule : List Nat) (hwraps : (Pool.start (calls.map c.program) s).NeverWraps (schedule.map .next)) :
    ((Pool.start (calls.map c.program) s).run (schedule.map .next)).shared.store.volumes.values.countP (·.name = name) ≤ 1 ∧
      (∃ volumeId, ∀ i m reply, calls[i]? = some (.createVolume m) → m.name = name →
        ((Pool.start (calls.map c.program) s).run (schedule.map .next)).result? i = some (.ok reply) →
        ∃ v, reply = .created v ∧ v.volumeId = volumeId) ∧
      ∀ i m e, calls[i]? = some (.createVolume m) → m.name = name →
        ((Pool.start (calls.map c.program) s).run (schedule.map .next)).result? i = some (.error e) → e.code = .alreadyExists →
        ∃ r o v, Request.CreateVolume.ofMessage m = .ok r ∧ c.createOptions r = .ok o ∧
          (⟨.getByName name, .ok v⟩ : Exchange gateway) ∈
            ((Pool.start (calls.map c.program) s).run (schedule.map .next)).exchanges i ∧ o.accepts v = false := by
  have hensured := Terms.ensured_run (Creates c)
    (fun call hcall => only_program_of_not_delete c fun m hm => hcalls m (hm ▸ hcall)) (fun call _ => ensures_creation c call s)
    (show lastingTerms.Holds s from ⟨hs, hcalm⟩) hwraps
    (by simp)
  refine ⟨hensured.holds.1.countP_name_le_one name, ?_, ?_⟩
  · -- the identifier is that of the stored volume of the name, if there is one
    by_cases hnamed : ∃ id,
        ((Pool.start (calls.map c.program) s).run (schedule.map .next)).shared.store.Named name id
    · obtain ⟨id, hid⟩ := hnamed
      refine ⟨toString id, fun i m reply hcall hm hanswer => ?_⟩
      obtain ⟨v, id', hreply, hv, hid'⟩ := (hensured.result hanswer _ hcall).created m reply rfl rfl
      rw [hm] at hid'
      rw [hensured.holds.1.named_unique hid hid']
      exact ⟨v, hreply, hv⟩
    · refine ⟨"", fun i m reply hcall hm hanswer => ?_⟩
      obtain ⟨_, id, _, _, hid⟩ := (hensured.result hanswer _ hcall).created m reply rfl rfl
      rw [hm] at hid
      exact absurd ⟨id, hid⟩ hnamed
  · intro i m e hcall hm hanswer hcode
    obtain ⟨r, hr, o, v, ho, hread, haccepts⟩ := (hensured.result hanswer _ hcall).refused m e rfl rfl hcode
    rw [(Request.CreateVolume.of_ofMessage hr).1, hm] at hread
    exact ⟨r, o, v, hr, ho, hread, haccepts⟩

/-- A call that makes a volume of the least size, or within a range. -/
def creation (range : Option CapacityRange) : ControllerCall :=
  .createVolume { name := "a", capacityRange := range, volumeCapabilities := [⟨some 1, some .block⟩] }

/-- The second call makes the volume; the first one finds it, and to the third one it is too small. -/
def rivalCreations : List ControllerCall := [creation none, creation none, creation (some ⟨21474836480, 0⟩), .listVolumes ⟨0, ""⟩]

def rivalSchedule : List Nat := [1, 0, 2, 3, 2, 0]

/-- The rival creations, as far as the schedule takes them. -/
def rivalPool : Pool (Except Status ControllerReply) :=
  (Pool.start (rivalCreations.map (program ⟨"fsn1", .empty⟩)) {}).run (rivalSchedule.map .next)

/-- Several calls for one name at the same time. -/
theorem rival_creations_agree :
    (∀ m, .deleteVolume m ∉ rivalCreations) ∧ ({} : Store).Distinct ∧
      (Pool.start (rivalCreations.map (program ⟨"fsn1", .empty⟩)) {}).NeverWraps (rivalSchedule.map .next) ∧
      (rivalPool.shared.store.volumes.values.countP (·.name = "a") ≤ 1 ∧
        (∃ volumeId, ∀ i m reply, rivalCreations[i]? = some (.createVolume m) → m.name = "a" →
          rivalPool.result? i = some (.ok reply) → ∃ v, reply = .created v ∧ v.volumeId = volumeId) ∧
        ∀ i m e, rivalCreations[i]? = some (.createVolume m) → m.name = "a" → rivalPool.result? i = some (.error e) →
          e.code = .alreadyExists →
          ∃ r o v, Request.CreateVolume.ofMessage m = .ok r ∧ createOptions ⟨"fsn1", .empty⟩ r = .ok o ∧
            (⟨.getByName "a", .ok v⟩ : Exchange gateway) ∈ rivalPool.exchanges i ∧ o.accepts v = false) ∧
      rivalPool.result? 0 = rivalPool.result? 1 ∧
      ∃ v e, rivalPool.result? 1 = some (.ok (.created v)) ∧ rivalPool.result? 2 = some (.error e) ∧ e.code = .alreadyExists := by
  have hcalls : ∀ m, .deleteVolume m ∉ rivalCreations := fun m => by simp [rivalCreations, creation]
  have hdistinct : ({} : Store).Distinct := ⟨List.nodup_nil, nofun⟩
  have hwraps : (Pool.start (rivalCreations.map (program ⟨"fsn1", .empty⟩)) {}).NeverWraps (rivalSchedule.map .next) :=
    Pool.neverWraps_of_lt (by decide)
  exact ⟨hcalls, hdistinct, hwraps, concurrent_creates_agree ⟨"fsn1", .empty⟩ "a" hcalls hdistinct rfl rivalSchedule hwraps,
    rfl, _, _, rfl, rfl, rfl⟩

end Controller

end VolumeDriver
