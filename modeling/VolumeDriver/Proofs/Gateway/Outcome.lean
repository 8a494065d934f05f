import VolumeDriver.Proofs.Gateway.Recreation

/-!
# What an answer of the idempotent layer means

A call that succeeds has achieved what it is for (`GatewayCall.Achieved`): so it is where the store itself answers, and where the
layer takes an error for a success, because such an error shows that the wanted state is reached (`Store.achieved_of_claimed`). Only
a failure that pretends so would mislead. Without failures a call fails exactly where it has to (`GatewayCall.Hopeless`).
-/

namespace VolumeDriver

open Program

namespace GatewayCall

/-- The store is as the call wants it, and the answer tells of it. -/
def Achieved : (c : GatewayCall) → c.Answer → Store → Prop
  | .create o, v, s => s.volumes.get? v.id = some v ∧ v.name = o.name ∧ (o.Consistent → o.accepts v = true)
  | .getById id, v, s => s.volumes.get? id = some v
  | .getByName name, v, s => s.volumes.get? v.id = some v ∧ v.name = name
  | .delete id, _, s => s.volumes.get? id = none
  | .attach id server, _, s => ∃ v, s.volumes.get? id = some v ∧ v.attachedServer = some server
  | .detach id (some server), _, s => ∃ v, s.volumes.get? id = some v ∧ v.attachedServer ≠ some server
  | .detach id none, _, s => ∃ v, s.volumes.get? id = some v ∧ v.attachedServer = none
  | .resize id sizeGib, _, s => ∃ v, s.volumes.get? id = some v ∧ v.sizeGib = sizeGib
  | .all, vs, s => vs = s.volumes.values

/-- What the call wants cannot be reached by it. -/
def Hopeless : GatewayCall → Store → Prop
  | .create o, s => ∃ v ∈ s.volumes.values, v.name = o.name ∧ o.accepts v = false
  | .getById id, s => s.volumes.get? id = none
  | .getByName name, s => ¬ s.Taken name
  | .delete _, _ => False
  | .attach id server, s =>
    s.volumes.get? id = none ∨ server ∉ s.servers ∨
      ∃ v, s.volumes.get? id = some v ∧
        ((∃ holder, v.attachedServer = some holder ∧ holder ≠ server) ∨
          v.attachedServer = none ∧ s.maxAttachments ≤ s.attachedTo server)
  | .detach id _, s => s.volumes.get? id = none
  | .resize id sizeGib, s => ∀ v, s.volumes.get? id = some v → sizeGib ≤ v.sizeGib
  | .all, _ => False

end GatewayCall

/-! ## Successes of the store -/

namespace Store

variable {s : Store}

/-- A call that the store answers has achieved what it is for. -/
theorem achieved_of_answer (hs : s.Sound) {c : GatewayCall} {a : c.Answer} (h : (s.answer c).1 = .ok a) :
    c.Achieved a (s.answer c).2 := by
  cases c with
  | create o =>
    rw [answer] at h ⊢
    by_cases htaken : s.Taken o.name
    · rw [create_of_taken htaken] at h
      cases h
    · rw [create_of_free htaken] at h ⊢
      cases h
      exact ⟨get?_withNew_self o s, rfl, fun ho => ho.accepts_newVolume s⟩
  | getById id => exact get?_of_getById h
  | getByName name => exact hs.get?_of_getByName h
  | delete id =>
    rw [answer] at h ⊢
    rcases s.delete_cases id with ⟨_, hd⟩ | ⟨v, _, ⟨_, hd⟩ | ⟨_, hd⟩⟩ <;> rw [hd] at h ⊢
    case inr.inr => exact get?_forget s id
    all_goals cases h
  | attach id server => exact held_of_attach h
  | detach id server =>
    rw [answer] at h ⊢
    rcases s.detach_cases id server with ⟨_, hd⟩ | ⟨v, _, ⟨_, hd⟩ | ⟨holder, _, ⟨_, hd⟩ | ⟨_, hd⟩⟩⟩ <;> rw [hd] at h ⊢
    case inr.inr.inr =>
      cases server with
      | none => exact ⟨released v, get?_put s id _, rfl⟩
      | some named => exact ⟨released v, get?_put s id _, by simp [released]⟩
    all_goals cases h
  | resize id sizeGib =>
    rw [answer] at h ⊢
    rcases s.resize_cases id sizeGib with ⟨_, hr⟩ | ⟨v, _, ⟨_, hr⟩ | ⟨_, hr⟩⟩ <;> rw [hr] at h ⊢
    case inr.inr => exact ⟨_, get?_put s id _, rfl⟩
    all_goals cases h
  | all => exact (Except.ok.inj h).symm

end Store

/-! ## Errors that tell of a reached state -/

/-- A volume to be deleted is gone; one to be detached is not attached, or not to the server. -/
def reachedErrors : List (GatewayOp × VolumeError) := [(.delete, .volumeNotFound), (.detach, .notAttached), (.detach, .attached)]

/-- Where the store answers with such an error, the state is reached. -/
theorem Store.achieved_of_claimed {s : Store} {c : GatewayCall} {e : VolumeError} (h : (s.answer c).1 = .error e)
    (hclaim : (c.op, e) ∈ reachedErrors) : ∃ a, c.Achieved a s := by
  cases c with
  | delete id =>
    obtain rfl : e = .volumeNotFound := by simpa [reachedErrors, GatewayCall.op] using hclaim
    rw [answer] at h
    rcases s.delete_cases id with ⟨hnone, _⟩ | ⟨v, _, ⟨_, hd⟩ | ⟨_, hd⟩⟩
    · exact ⟨(), hnone⟩
    all_goals
      rw [hd] at h
      cases h
  | detach id server =>
    have he : e = .notAttached ∨ e = .attached := by simpa [reachedErrors, GatewayCall.op] using hclaim
    rw [answer] at h
    rcases s.detach_cases id server with ⟨_, hd⟩ | ⟨v, hv, ⟨hfree, _⟩ | ⟨holder, hheld, ⟨⟨named, rfl, hother⟩, _⟩ | ⟨_, hd⟩⟩⟩
    · rw [hd] at h
      cases h
      exact absurd he (by simp)
    · cases server with
      | none => exact ⟨(), v, hv, hfree⟩
      | some named => exact ⟨(), v, hv, by simp [hfree]⟩
    · exact ⟨(), v, hv, by simpa [hheld] using hother⟩
    · rw [hd] at h
      cases h
  | _ => simp [reachedErrors, GatewayCall.op] at hclaim

namespace FaultyStore

/-- No failure still to come pretends that a state is reached. -/
def Honest (s : FaultyStore) : Prop := ∀ f ∈ s.failures, f ∉ reachedErrors

/-- A failure that is taken was queued, and those that are left were. -/
theorem of_takeFailure {op : GatewayOp} {queue rest : List (GatewayOp × VolumeError)} {e : VolumeError}
    (h : takeFailure op queue = some (e, rest)) : (op, e) ∈ queue ∧ rest ⊆ queue := by
  induction queue generalizing rest with
  | nil => nomatch h
  | cons f fs ih =>
    rw [takeFailure] at h
    split at h
    case isTrue hop =>
      cases h
      exact ⟨hop ▸ List.mem_cons_self, List.subset_cons_self f fs⟩
    case isFalse =>
      obtain ⟨⟨_, others⟩, htaken, heq⟩ := Option.map_eq_some_iff.1 h
      cases heq
      obtain ⟨hmem, hsub⟩ := ih htaken
      exact ⟨List.mem_cons_of_mem f hmem, List.cons_subset_cons f hsub⟩

variable {s t : FaultyStore} {c : GatewayCall}

/-- Failures that pretend nothing stay so when some of them are used up. -/
theorem Honest.answer (h : s.Honest) (c : GatewayCall) : (answer c s).2.Honest := by
  unfold FaultyStore.answer
  dsimp only
  split
  case h_1 e rest htaken => exact fun f hf => h f ((of_takeFailure htaken).2 hf)
  case h_2 => exact h

/-- A call that succeeds has achieved what it is for, whatever failures were to come. -/
theorem achieved_of_answer (hs : s.store.Sound) {a : c.Answer} (h : (answer c s).1 = .ok a) :
    c.Achieved a (answer c s).2.store := by
  obtain ⟨hanswer, hstore⟩ := answer_of_ok h
  rw [hstore]
  exact Store.achieved_of_answer hs hanswer

/-- An error that tells of a reached state does not pretend. -/
theorem achieved_of_claimed (hh : s.Honest) {e : VolumeError} (h : (answer c s).1 = .error e) (hclaim : (c.op, e) ∈ reachedErrors) :
    ∃ a, c.Achieved a (answer c s).2.store := by
  rw [store_answer_of_error h]
  unfold FaultyStore.answer at h
  dsimp only at h
  split at h
  case h_1 e' rest htaken =>
    cases h
    exact absurd hclaim (hh _ (of_takeFailure htaken).1)
  case h_2 => exact Store.achieved_of_claimed h hclaim

/-- A call that creates nothing leaves a sound store sound. -/
theorem sound_answer (hs : s.store.Sound) (hc : c.op ≠ .create) : (answer c s).2.store.Sound :=
  (hs.step (step_answer c s) hc).1

end FaultyStore

/-! ## Successes of the layer -/

namespace Idempotent

open FaultyStore

variable {s t : FaultyStore}

/-- A creation that succeeds has its volume stored. -/
theorem achieved_of_create {o : CreateOptions} {v : Volume} (hs : s.store.Sound) (h : (create o).run answer s = (.ok v, t)) :
    (GatewayCall.create o).Achieved v t.store := by
  rcases create_cases h with ⟨_, rfl, hstore⟩ | ⟨hget, haccepts, hstore⟩ <;> rw [hstore]
  · exact ⟨Store.get?_withNew_self o s.store, rfl, fun ho => ho.accepts_newVolume s.store⟩
  · obtain ⟨hstored, hname⟩ := hs.get?_of_getByName hget
    exact ⟨hstored, hname, fun _ => haccepts⟩

/-- Forgets a volume that no server holds, unless it is gone. -/
def forgetting (id : VolumeId) : Program gateway (Except VolumeError Unit) := do
  match ← askGateway (.delete id) with
  | .error .volumeNotFound => pure (.ok ())
  | r => pure r

/-- A volume that is forgotten with success is gone. -/
theorem achieved_of_forgetting {id : VolumeId} (hs : s.store.Sound) (hh : s.Honest)
    (h : (forgetting id).run answer s = (.ok (), t)) : (GatewayCall.delete id).Achieved () t.store := by
  rw [forgetting, bind_eq, run_bind] at h
  simp only [ask, run_call, run_done] at h
  split at h
  case h_1 hgone =>
    cases h
    obtain ⟨_, hachieved⟩ := achieved_of_claimed hh hgone List.mem_cons_self
    exact hachieved
  case h_2 =>
    obtain ⟨hok, ht⟩ := Prod.mk.inj h
    rw [← ht]
    exact achieved_of_answer hs hok

/-- A deletion that succeeds leaves the volume gone. -/
theorem achieved_of_delete {id : VolumeId} (hs : s.store.Sound) (hh : s.Honest) (h : (delete id).run answer s = (.ok (), t)) :
    (GatewayCall.delete id).Achieved () t.store := by
  have hs' : (answer (.detach id none) s).2.store.Sound := sound_answer hs nofun
  have hh' := hh.answer (.detach id none)
  rw [delete, bind_eq, run_bind] at h
  simp only [ask, run_call, run_done] at h
  split at h
  case h_4 => cases h
  -- the three outcomes after which the volume is forgotten
  all_goals exact achieved_of_forgetting hs' hh' h

/-- An attachment that succeeds leaves the volume with the server. -/
theorem achieved_of_attach {id : VolumeId} {server : ServerId} (hs : s.store.Sound)
    (h : (attach id server).run answer s = (.ok (), t)) : (GatewayCall.attach id server).Achieved () t.store := by
  have hs' : (answer (.attach id server) s).2.store.Sound := sound_answer hs nofun
  rw [attach, bind_eq, run_bind] at h
  simp only [ask, run_call, run_done] at h
  split at h
  case h_1 hok =>
    cases h
    exact achieved_of_answer hs hok
  case h_2 e _ =>
    rw [bind_eq, run_bind] at h
    simp only [run_call, run_done] at h
    split at h
    case h_1 v hfound =>
      split at h
      case isTrue hheld =>
        cases h
        exact ⟨v, achieved_of_answer hs' hfound, hheld⟩
      case isFalse => cases h
    case h_2 => cases h

/-- A detachment that succeeds leaves the volume without the server. -/
theorem achieved_of_detach {id : VolumeId} {server : Option ServerId} (hs : s.store.Sound) (hh : s.Honest)
    (h : (detach id server).run answer s = (.ok (), t)) : (GatewayCall.detach id server).Achieved () t.store := by
  rw [detach, bind_eq, run_bind] at h
  simp only [ask, run_call, run_done] at h
  split at h
  case h_3 =>
    obtain ⟨hok, ht⟩ := Prod.mk.inj h
    rw [← ht]
    exact achieved_of_answer hs hok
  -- the two errors that tell that the server does not hold the volume
  all_goals
    rename_i herror
    cases h
    obtain ⟨_, hachieved⟩ := achieved_of_claimed hh herror (by simp [reachedErrors, GatewayCall.op])
    exact hachieved

/-- A single call that succeeds has reached what it wants. -/
theorem achieved_of_ask {c : GatewayCall} {a : c.Answer} (hs : s.store.Sound) (h : (askGateway c).run answer s = (.ok a, t)) :
    c.Achieved a t.store := by
  obtain ⟨hok, ht⟩ := Prod.mk.inj h
  rw [← ht]
  exact achieved_of_answer hs hok

/-- A call that succeeds has achieved what it is for, unless a failure to come pretends so. -/
theorem achieved_of_layer {c : GatewayCall} {a : c.Answer} (hs : s.store.Sound) (hh : s.Honest)
    (h : (layer c).run answer s = (.ok a, t)) : c.Achieved a t.store := by
  cases c with
  | create o => exact achieved_of_create hs h
  | delete id => exact achieved_of_delete hs hh h
  | attach id server => exact achieved_of_attach hs h
  | detach id server => exact achieved_of_detach hs hh h
  | getById id | getByName name | resize id sizeGib | all => exact achieved_of_ask hs h

/-! ## Failures of the layer -/

section

variable {s : Store}

/-- A success is no failure. -/
theorem not_fails {α : Type} (a : α) : ¬ ∃ e : VolumeError, (.ok a : Except VolumeError α) = .error e := by simp

/-- A name that is taken is taken by one volume. -/
theorem fails_create_iff (hs : s.Sound) (o : CreateOptions) :
    (∃ e, (s.perform (create o)).1 = .error e) ↔ (GatewayCall.create o).Hopeless s := by
  by_cases htaken : s.Taken o.name
  · obtain ⟨v, hv, hname⟩ := htaken
    obtain ⟨id, hget⟩ := SortedMap.mem_values_iff.1 hv
    have hfind : s.findName o.name = some v := hname ▸ hs.distinct.findName_eq hget
    have honly : (GatewayCall.create o).Hopeless s ↔ o.accepts v = false := by
      constructor
      · rintro ⟨w, hw, hsame, hrefused⟩
        rwa [hs.distinct.eq_of_name hget hw (hsame.trans hname.symm)] at hrefused
      · exact fun hrefused => ⟨v, hv, hname, hrefused⟩
    rw [honly, perform_create_of_named hfind]
    cases o.accepts v <;> simp
  · rw [perform_create_of_free htaken]
    exact iff_of_false (not_fails _) fun ⟨v, hv, hname, _⟩ => htaken ⟨v, hv, hname⟩

/-- Without failures a deletion always succeeds. -/
theorem succeeds_delete (id : VolumeId) (s : Store) : (s.perform (delete id)).1 = .ok () := by
  cases hget : s.volumes.get? id with
  | none => rw [perform_delete_of_none hget]
  | some v => rw [perform_delete_of_some hget]

/-- A volume that the server does not hold is attached, or the error stays. -/
theorem perform_attach_of_error {id : VolumeId} {server : ServerId} {e : VolumeError} (h : s.attach id server = (.error e, s))
    (hheld : ∀ v, s.volumes.get? id = some v → v.attachedServer ≠ some server) : s.perform (attach id server) = (.error e, s) := by
  simp only [Store.perform, attach, bind_eq, ask, call_bind, run_call, Store.answer, h, done_bind]
  cases hget : s.volumes.get? id with
  | none => simp [Store.getById, hget]
  | some v => simp [Store.getById, hget, hheld v hget]

/-- Without failures an attachment fails exactly if it is hopeless. -/
theorem fails_attach_iff (hs : s.Sound) (id : VolumeId) (server : ServerId) :
    (∃ e, (s.perform (attach id server)).1 = .error e) ↔ (GatewayCall.attach id server).Hopeless s := by
  rcases s.attach_cases id server with
    ⟨hnone, ha⟩ | ⟨v, hv, ⟨hserver, ha⟩ | ⟨hserver, hheld, ha⟩ | ⟨_, hfree, hfull, ha⟩ | ⟨hserver, hfree, hroom, ha⟩⟩
  · rw [perform_attach_of_error ha (by simp [hnone])]
    exact iff_of_true ⟨_, rfl⟩ (Or.inl hnone)
  · -- a server that does not exist holds nothing
    rw [perform_attach_of_error ha fun w hw hholder => hserver (hs.server_mem id w server hw hholder)]
    exact iff_of_true ⟨_, rfl⟩ (Or.inr (Or.inl hserver))
  · obtain ⟨holder, hholder⟩ := Option.ne_none_iff_exists'.1 hheld
    by_cases hsame : holder = server
    · rw [perform_attach_of_held hv (hsame ▸ hholder)]
      exact iff_of_false (not_fails ()) (by simp [GatewayCall.Hopeless, hv, hserver, hholder, hsame])
    · rw [perform_attach_of_error ha (by simp [hv, hholder, hsame])]
      exact iff_of_true ⟨_, rfl⟩ (Or.inr (Or.inr ⟨v, hv, Or.inl ⟨holder, hholder, hsame⟩⟩))
  · rw [perform_attach_of_error ha (by simp [hv, hfree])]
    exact iff_of_true ⟨_, rfl⟩ (Or.inr (Or.inr ⟨v, hv, Or.inr ⟨hfree, hfull⟩⟩))
  · rw [perform_attach_of_ok ha]
    exact iff_of_false (not_fails ()) (by simp [GatewayCall.Hopeless, hv, hserver, hfree, hroom])

/-- Without failures a detachment fails exactly if there is no such volume. -/
theorem fails_detach_iff (id : VolumeId) (server : Option ServerId) (s : Store) :
    (∃ e, (s.perform (detach id server)).1 = .error e) ↔ s.volumes.get? id = none := by
  rcases s.detach_cases id server with ⟨hnone, hd⟩ | ⟨v, hv, ⟨_, hd⟩ | ⟨holder, _, ⟨_, hd⟩ | ⟨_, hd⟩⟩⟩ <;>
    simp only [Store.perform, detach, bind_eq, ask, call_bind, run_call, Store.answer, hd, done_bind, pure_eq, run_done]
  · exact iff_of_true ⟨_, rfl⟩ hnone
  all_goals exact iff_of_false (not_fails ()) (by simp [hv])

/-- A volume is not found by an identifier exactly if none is stored under it. -/
theorem fails_getById_iff (id : VolumeId) (s : Store) : (∃ e, s.getById id = .error e) ↔ s.volumes.get? id = none := by
  unfold Store.getById
  cases s.volumes.get? id <;> simp

/-- A volume is not found by a name exactly if none has it. -/
theorem fails_getByName_iff (name : String) (s : Store) : (∃ e, s.getByName name = .error e) ↔ ¬ s.Taken name := by
  have hfind : s.findName name = none ↔ ¬ s.Taken name := by simp [Store.findName, Store.Taken]
  unfold Store.getByName
  rw [← hfind]
  cases s.findName name <;> simp

/-- A volume is not resized exactly if it is missing or large enough. -/
theorem fails_resize_iff (id : VolumeId) (sizeGib : UInt64) (s : Store) :
    (∃ e, (s.resize id sizeGib).1 = .error e) ↔ ∀ v, s.volumes.get? id = some v → sizeGib ≤ v.sizeGib := by
  rcases s.resize_cases id sizeGib with ⟨hnone, hr⟩ | ⟨v, hv, ⟨hreached, hr⟩ | ⟨hgrows, hr⟩⟩ <;> rw [hr]
  · exact iff_of_true ⟨_, rfl⟩ (by simp [hnone])
  · exact iff_of_true ⟨_, rfl⟩ (by simpa [hv] using hreached)
  · exact iff_of_false (not_fails ()) (by simpa [hv] using hgrows)

/-- A store that does not fail refuses exactly the calls that are hopeless. -/
theorem fails_layer_iff (hs : s.Sound) (c : GatewayCall) : (∃ e, (s.perform (layer c)).1 = .error e) ↔ c.Hopeless s := by
  cases c with
  | create o => exact fails_create_iff hs o
  | getById id => exact fails_getById_iff id s
  | getByName name => exact fails_getByName_iff name s
  | delete id => exact iff_of_false (by simp [layer, succeeds_delete id s]) not_false
  | attach id server => exact fails_attach_iff hs id server
  | detach id server => exact fails_detach_iff id server s
  | resize id sizeGib => exact fails_resize_iff id sizeGib s
  | all => exact iff_of_false (not_fails _) not_false

end

/-- A call of a sound store that succeeds has achieved what it is for, whatever failures are to come, unless one pretends so.
Without failures a call fails exactly if it is hopeless. -/
theorem layer_outcome {s : FaultyStore} (hs : s.store.Sound) (c : GatewayCall) :
    (s.Honest → ∀ a t, (layer c).run answer s = (.ok a, t) → c.Achieved a t.store) ∧
      (s.failures = [] → ((∃ e, ((layer c).run answer s).1 = .error e) ↔ c.Hopeless s.store)) := by
  refine ⟨fun hh a t => achieved_of_layer hs hh, fun hcalm => ?_⟩
  rw [(run_of_calm (layer c) hcalm).1]
  exact fails_layer_iff hs c

/-- A volume that the server holds already, as it does when an attempt before took effect. -/
theorem layer_outcome_attached :
    let before : Store := (Store.addServer { maxAttachments := 1 } ⟨1⟩).withNew ⟨"a", 10, 0, "fsn1", .empty⟩
    let s : FaultyStore := { store := (before.attach ⟨1⟩ ⟨1⟩).2 }
    let c : GatewayCall := .attach ⟨1⟩ ⟨1⟩
    (s.store.Sound ∧ s.Honest ∧ s.failures = [] ∧ (s.store.answer c).1 = .error .attached) ∧
      c.Achieved () ((layer c).run answer s).2.store ∧ ((∃ e, ((layer c).run answer s).1 = .error e) ↔ c.Hopeless s.store) := by
  intro before s c
  have hbefore : before.Sound := ((Store.sound_empty 1).addServer ⟨1⟩).withNew nofun (by decide)
  have hs : s.store.Sound := (hbefore.step (before.step_answer c) nofun).1
  obtain ⟨hachieved, hfails⟩ := layer_outcome hs c
  exact ⟨⟨hs, nofun, rfl, rfl⟩, hachieved nofun () _ rfl, hfails rfl⟩

end Idempotent

end VolumeDriver
