import VolumeDriver.Capacity
import VolumeDriver.Gateway.Idempotent
import VolumeDriver.Proofs.Gateway.Store
import VolumeDriver.Proofs.Program

/-!
# Calls that absorb their own traces

An attempt that was cut short has made some of the calls of its program, each of which took effect or not. A program absorbs
these traces (`Absorbs`) when it runs from the store that one of its calls leaves exactly as it runs from the store before the
call. Then any number of attempts, with any failures, lead to a store from which one undisturbed run does what it would have
done at first (`run_after_attempts`). The programs of the idempotent layer absorb their traces.
-/

namespace VolumeDriver

open Program

namespace FaultyStore

/-- The store with failures queued behind those it has. -/
def failAll (s : FaultyStore) (failures : List (GatewayOp × VolumeError)) : FaultyStore :=
  failures.foldl (fun s f => s.failNext f.1 f.2) s

/-- The store with no failure queued. -/
def calm (s : FaultyStore) : FaultyStore := { s with failures := [] }

/-- What attempts at a program leave. Before each attempt the failures of its list are queued. -/
def attempts {α : Type} (p : Program gateway α) : List (List (GatewayOp × VolumeError)) → FaultyStore → FaultyStore
  | [], s => s
  | failures :: rest, s => attempts p rest (p.run answer (s.failAll failures)).2

/-- Queued failures do not change the store. -/
@[simp]
theorem store_failAll (s : FaultyStore) (failures : List (GatewayOp × VolumeError)) :
    (s.failAll failures).store = s.store := by
  induction failures generalizing s with
  | nil => rfl
  | cons f fs ih => exact ih _

/-- A call either fails and leaves the stored volumes alone, or is answered by the store. -/
theorem store_answer (c : GatewayCall) (s : FaultyStore) :
    (answer c s).2.store = s.store ∨ (answer c s).2.store = (s.store.answer c).2 :=
  (answer_cases c s).imp And.right And.right

/-- Without failures a call is logged and answered by the store. -/
theorem answer_of_calm {s : FaultyStore} (h : s.failures = []) (c : GatewayCall) :
    answer c s = ((s.store.answer c).1, { s with store := (s.store.answer c).2, calls := s.calls ++ [c.op] }) := by
  unfold answer
  rw [h]
  rfl

/-- Without failures a program runs as over the store itself. -/
theorem run_of_calm {α : Type} (p : Program gateway α) {s : FaultyStore} (h : s.failures = []) :
    (p.run answer s).1 = (p.run (fun c t => t.answer c) s.store).1 ∧
      (p.run answer s).2.store = (p.run (fun c t => t.answer c) s.store).2 := by
  induction p generalizing s with
  | done a => exact ⟨rfl, rfl⟩
  | call c next ih =>
    rw [run_call, run_call, answer_of_calm h]
    exact ih _ (s := { s with store := (s.store.answer c).2, calls := s.calls ++ [c.op] }) h

end FaultyStore

/-! ## Absorption -/

/-- Running a program by the answers of a store that does not fail. -/
abbrev Store.perform {α : Type} (p : Program gateway α) (s : Store) : α × Store := p.run (fun c t => t.answer c) s

/-- A run over a store that does not fail, with what it is known to end with. -/
theorem FaultyStore.run_of_perform {α : Type} {p : Program gateway α} {s : FaultyStore} (hcalm : s.failures = []) {a : α}
    {t : Store} (h : s.store.perform p = (a, t)) :
    ∃ u : FaultyStore, p.run FaultyStore.answer s = (a, u) ∧ u.store = t ∧ u.failures = [] := by
  obtain ⟨hanswer, hstore⟩ := run_of_calm p hcalm
  rw [← Store.perform, h] at hanswer hstore
  have hcalm' : (p.run FaultyStore.answer s).2.failures = [] :=
    run_preserves (P := fun u : FaultyStore => u.failures = []) (fun c u _ hu => by rw [answer_of_calm hu]; exact hu)
      (only_true p) hcalm
  exact ⟨_, Prod.ext hanswer rfl, hstore, hcalm'⟩

/-- The program makes calls that satisfy `Q`, and runs from the store that such a call leaves as from the store before it. -/
structure Absorbs {α : Type} (Q : GatewayCall → Prop) (p : Program gateway α) : Prop where
  only : p.Only Q
  absorbs : ∀ c, Q c → ∀ s : Store, (s.answer c).2.perform p = s.perform p

/-- After any attempts at a program that absorbs its traces, an undisturbed run answers and leaves what it would have answered
and left at first. -/
theorem Absorbs.run_after_attempts {α : Type} {Q : GatewayCall → Prop} {p : Program gateway α} (h : Absorbs Q p)
    (queues : List (List (GatewayOp × VolumeError))) (s : FaultyStore) :
    (p.run FaultyStore.answer (FaultyStore.attempts p queues s).calm).1 = (p.run FaultyStore.answer s.calm).1 ∧
      (p.run FaultyStore.answer (FaultyStore.attempts p queues s).calm).2.store =
        (p.run FaultyStore.answer s.calm).2.store := by
  -- the invariant of the attempts: from the store at hand the program runs as from the first one
  have hstep : ∀ (c : GatewayCall) (t : FaultyStore), Q c → t.store.perform p = s.store.perform p →
      (FaultyStore.answer c t).2.store.perform p = s.store.perform p := by
    intro c t hc ht
    rcases FaultyStore.store_answer c t with he | he
    · rw [he, ht]
    · rw [he, h.absorbs c hc, ht]
  have hall : ∀ (t : FaultyStore), t.store.perform p = s.store.perform p →
      (FaultyStore.attempts p queues t).store.perform p = s.store.perform p := by
    induction queues with
    | nil =>
      intro t ht
      exact ht
    | cons failures rest ih =>
      intro t ht
      exact ih _ (run_preserves hstep h.only (s := t.failAll failures) (by rw [FaultyStore.store_failAll, ht]))
  obtain ⟨ha, hs⟩ := FaultyStore.run_of_calm p (s := (FaultyStore.attempts p queues s).calm) rfl
  obtain ⟨ha', hs'⟩ := FaultyStore.run_of_calm p (s := s.calm) rfl
  have heq := hall s rfl
  rw [ha, hs, ha', hs']
  exact ⟨congrArg Prod.fst heq, congrArg Prod.snd heq⟩

/-! ## Calls that only look -/

/-- A call that changes no store. -/
def GatewayCall.Looks : GatewayCall → Prop
  | .getById _ | .getByName _ | .all => True
  | _ => False

/-- A call that only looks leaves the store as it was. -/
theorem Store.answer_of_looks {c : GatewayCall} (h : c.Looks) (s : Store) : (s.answer c).2 = s := by
  cases c with
  | getById id => rfl
  | getByName name => rfl
  | all => rfl
  | _ => exact h.elim

/-- To look changes nothing, whether it fails or not. -/
theorem FaultyStore.store_answer_of_looks {c : GatewayCall} (h : c.Looks) (s : FaultyStore) : (answer c s).2.store = s.store := by
  rcases store_answer c s with hstore | hstore <;> rw [hstore]
  exact Store.answer_of_looks h s.store

/-- A program that only looks absorbs its traces, since it leaves none. -/
theorem Absorbs.of_looks {α : Type} {p : Program gateway α} (h : p.Only GatewayCall.Looks) : Absorbs GatewayCall.Looks p :=
  ⟨h, fun c hc s => by rw [Store.answer_of_looks hc]⟩

/-- A program that absorbs its traces, with more calls counted among those it may make that only look. -/
theorem Absorbs.or_looks {α : Type} {Q : GatewayCall → Prop} {p : Program gateway α} (h : Absorbs Q p) :
    Absorbs (fun c => Q c ∨ c.Looks) p := by
  refine ⟨h.only.mono fun c hc => Or.inl hc, ?_⟩
  rintro c (hc | hc) s
  · exact h.absorbs c hc s
  · rw [Store.answer_of_looks hc]

/-- Looking after what a program did leaves no trace of its own. -/
theorem Absorbs.bind {α β : Type} {Q : GatewayCall → Prop} {p : Program gateway α} {f : α → Program gateway β}
    (h : Absorbs Q p) (hf : ∀ a, (f a).Only GatewayCall.Looks) : Absorbs (fun c => Q c ∨ c.Looks) (p.bind f) := by
  refine ⟨h.or_looks.only.bind fun a => (hf a).mono fun c hc => Or.inr hc, ?_⟩
  intro c hc s
  have hp := h.or_looks.absorbs c hc s
  simp only [Store.perform, run_bind] at hp ⊢
  rw [hp]

/-! ## The calls of the idempotent layer -/

/-- Options accept a volume of a size within their bounds, at their location. -/
theorem CreateOptions.accepts_iff {o : CreateOptions} {v : Volume} :
    o.accepts v = true ↔
      o.minSizeGib ≤ v.sizeGib ∧ (o.maxSizeGib = 0 ∨ v.sizeGib ≤ o.maxSizeGib) ∧ v.location = o.location := by
  simp [accepts, and_assoc]

/-- The options are met by the volume that is made for them: their bounds leave room for the least size. -/
def CreateOptions.Consistent (o : CreateOptions) : Prop := o.maxSizeGib = 0 ∨ o.minSizeGib ≤ o.maxSizeGib

/-- Consistent options accept the volume that is made for them. -/
theorem CreateOptions.Consistent.accepts_newVolume {o : CreateOptions} (h : o.Consistent) (s : Store) :
    o.accepts (s.newVolume o) := by
  rcases h with h | h
  · simp [accepts, Store.newVolume, h]
  · simp [accepts, Store.newVolume, h]

namespace Idempotent

open GatewayCall

/-- A creation creates once and looks. -/
theorem only_create (o : CreateOptions) : (create o).Only fun c : GatewayCall => c = .create o ∨ c.Looks := by
  refine Only.bind (only_ask (Or.inl rfl)) fun r => ?_
  split
  · refine Only.bind (only_ask (Or.inr trivial)) fun r => ?_
    split <;> trivial
  · trivial

/-- A volume is made under a free name. -/
theorem perform_create_of_free {o : CreateOptions} {s : Store} (h : ¬ s.Taken o.name) :
    s.perform (create o) = (.ok (s.newVolume o), s.withNew o) := by
  simp only [Store.perform, create, bind_eq, ask, call_bind, run_call, Store.answer, Store.create_of_free h, done_bind]
  rfl

/-- Making a volume again finds the one that was made. -/
theorem absorbs_create {o : CreateOptions} (ho : o.Consistent) :
    Absorbs (fun c => c = .create o ∨ c.Looks) (create o) := by
  refine ⟨only_create o, ?_⟩
  rintro c (rfl | hc) s
  · by_cases h : s.Taken o.name
    · rw [Store.answer, Store.create_of_taken h]
    · have hagain : (s.withNew o).perform (create o) = (.ok (s.newVolume o), s.withNew o) := by
        have hget : (s.withNew o).getByName o.name = .ok (s.newVolume o) := by
          rw [Store.getByName, Store.findName_withNew h]
        simp only [Store.perform, create, bind_eq, ask, call_bind, run_call, Store.answer,
          Store.create_of_taken (Store.taken_withNew o s), done_bind, hget, ho.accepts_newVolume]
        rfl
      rw [perform_create_of_free h, Store.answer, Store.create_of_free h, hagain]
  · rw [Store.answer_of_looks hc]

/-! ### Deleting -/

/-- A volume that exists is forgotten, attached or not. -/
theorem perform_delete_of_some {id : VolumeId} {s : Store} {v : Volume} (h : s.volumes.get? id = some v) :
    s.perform (delete id) = (.ok (), s.forget id) := by
  have hforget : ∀ t : Store, (∃ w, t.volumes.get? id = some w ∧ w.attachedServer = none) →
      t.delete id = (.ok (), t.forget id) := by
    rintro t ⟨w, hw, hfree⟩
    rcases t.delete_cases id with ⟨hn, _⟩ | ⟨u, hu, ⟨hne, _⟩ | ⟨_, hd⟩⟩
    · rw [hw] at hn
      cases hn
    · rw [hw] at hu
      cases hu
      exact absurd hfree hne
    · exact hd
  rcases s.detach_cases id none with ⟨hn, _⟩ | ⟨w, hw, ⟨hfree, hd⟩ | ⟨holder, _, ⟨⟨_, hnone, _⟩, _⟩ | ⟨_, hd⟩⟩⟩
  · rw [h] at hn
    cases hn
  · simp only [Store.perform, delete, bind_eq, ask, call_bind, run_call, Store.answer, hd, done_bind,
      hforget s ⟨w, hw, hfree⟩, pure_eq, run_done]
  · cases hnone
  · simp only [Store.perform, delete, bind_eq, ask, call_bind, run_call, Store.answer, hd, done_bind,
      hforget (s.put id (Store.released w)) ⟨_, Store.get?_put s id _, rfl⟩, Store.forget_put, pure_eq, run_done]

/-- A volume that does not exist is deleted already. -/
theorem perform_delete_of_none {id : VolumeId} {s : Store} (h : s.volumes.get? id = none) :
    s.perform (delete id) = (.ok (), s) := by
  have hdetach : s.detach id none = (.error .volumeNotFound, s) := by simp [Store.detach, h]
  have hdelete : s.delete id = (.error .volumeNotFound, s) := by simp [Store.delete, h]
  simp only [Store.perform, delete, bind_eq, ask, call_bind, run_call, Store.answer, hdetach, done_bind, hdelete, pure_eq,
    run_done]

/-- A deletion detaches the volume from any server and deletes it. -/
theorem only_delete (id : VolumeId) : (delete id).Only fun c : GatewayCall => c = .detach id none ∨ c = .delete id := by
  refine Only.bind (only_ask (Or.inl rfl)) fun r => ?_
  split
  case h_4 => trivial
  -- the three outcomes after which the volume is to be forgotten
  all_goals
    refine Only.bind (only_ask (Or.inr rfl)) fun r => ?_
    split <;> trivial

/-- Deleting a volume again finds it detached or gone. -/
theorem absorbs_delete (id : VolumeId) : Absorbs (fun c => c = .detach id none ∨ c = .delete id) (delete id) := by
  refine ⟨only_delete id, ?_⟩
  rintro c (rfl | rfl) s
  · rcases s.detach_cases id none with ⟨_, hd⟩ | ⟨v, hv, ⟨_, hd⟩ | ⟨holder, _, ⟨_, hd⟩ | ⟨_, hd⟩⟩⟩
    · rw [Store.answer, hd]
    · rw [Store.answer, hd]
    · rw [Store.answer, hd]
    · rw [Store.answer, hd, perform_delete_of_some (Store.get?_put s id _), Store.forget_put, perform_delete_of_some hv]
  · rcases s.delete_cases id with ⟨_, hd⟩ | ⟨v, hv, ⟨_, hd⟩ | ⟨_, hd⟩⟩
    · rw [Store.answer, hd]
    · rw [Store.answer, hd]
    · rw [Store.answer, hd, perform_delete_of_none (Store.get?_forget s id), perform_delete_of_some hv]

/-! ### Attaching and detaching -/

/-- An attachment attaches and looks. -/
theorem only_attach (id : VolumeId) (server : ServerId) :
    (attach id server).Only fun c : GatewayCall => c = .attach id server ∨ c.Looks := by
  refine Only.bind (only_ask (Or.inl rfl)) fun r => ?_
  split
  · trivial
  · refine Only.bind (only_ask (Or.inr trivial)) fun r => ?_
    split <;> trivial

/-- Whatever refuses to attach a volume that the server holds, the volume is attached. -/
theorem perform_attach_of_held {id : VolumeId} {server : ServerId} {s : Store} {v : Volume}
    (h : s.volumes.get? id = some v) (hheld : v.attachedServer = some server) :
    s.perform (attach id server) = (.ok (), s) := by
  have hlook : s.getById id = .ok v := Store.getById_of_get? h
  have hrefused : ∃ e, s.attach id server = (.error e, s) := by
    rcases s.attach_cases id server with
      ⟨_, ha⟩ | ⟨w, hw, ⟨_, ha⟩ | ⟨_, _, ha⟩ | ⟨_, hfree, _, ha⟩ | ⟨_, hfree, _, _⟩⟩
    · exact ⟨_, ha⟩
    · exact ⟨_, ha⟩
    · exact ⟨_, ha⟩
    · exact ⟨_, ha⟩
    · rw [h] at hw
      cases hw
      rw [hheld] at hfree
      nomatch hfree
  obtain ⟨e, ha⟩ := hrefused
  simp only [Store.perform, attach, bind_eq, ask, call_bind, run_call, Store.answer, ha, done_bind, hlook, hheld, if_true,
    pure_eq, run_done]

/-- A volume that is attached at once needs no look. -/
theorem perform_attach_of_ok {id : VolumeId} {server : ServerId} {s t : Store} (h : s.attach id server = (.ok (), t)) :
    s.perform (attach id server) = (.ok (), t) := by
  simp only [Store.perform, attach, bind_eq, ask, call_bind, run_call, Store.answer, h, done_bind, pure_eq, run_done]

/-- Attaching a volume again finds that the server holds it. -/
theorem absorbs_attach (id : VolumeId) (server : ServerId) :
    Absorbs (fun c => c = .attach id server ∨ c.Looks) (attach id server) := by
  refine ⟨only_attach id server, ?_⟩
  rintro c (rfl | hc) s
  · rcases s.attach_cases id server with
      ⟨_, ha⟩ | ⟨v, _, ⟨_, ha⟩ | ⟨_, _, ha⟩ | ⟨_, _, _, ha⟩ | ⟨_, _, _, ha⟩⟩
    · rw [Store.answer, ha]
    · rw [Store.answer, ha]
    · rw [Store.answer, ha]
    · rw [Store.answer, ha]
    · rw [Store.answer, ha, perform_attach_of_held (Store.get?_put s id _) rfl, perform_attach_of_ok ha]
  · rw [Store.answer_of_looks hc]

/-- A detachment makes no other call. -/
theorem only_detach (id : VolumeId) (server : Option ServerId) :
    (detach id server).Only fun c : GatewayCall => c = .detach id server := by
  refine Only.bind (only_ask rfl) fun r => ?_
  split <;> trivial

/-- Detaching a volume again finds that no server holds it. -/
theorem absorbs_detach (id : VolumeId) (server : Option ServerId) :
    Absorbs (fun c => c = .detach id server) (detach id server) := by
  refine ⟨only_detach id server, ?_⟩
  rintro c rfl s
  rcases s.detach_cases id server with ⟨_, hd⟩ | ⟨v, _, ⟨_, hd⟩ | ⟨holder, _, ⟨_, hd⟩ | ⟨_, hd⟩⟩⟩
  · rw [Store.answer, hd]
  · rw [Store.answer, hd]
  · rw [Store.answer, hd]
  · have hagain : (s.put id (Store.released v)).detach id server = (.error .notAttached, s.put id (Store.released v)) := by
      simp [Store.detach, Store.released]
    simp only [Store.perform, detach, bind_eq, ask, call_bind, run_call, Store.answer, hd, done_bind, hagain, pure_eq, run_done]

end Idempotent

end VolumeDriver
