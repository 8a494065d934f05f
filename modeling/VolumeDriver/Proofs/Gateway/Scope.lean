import VolumeDriver.Proofs.Gateway.Outcome

/-!
# What a call changes

A call changes the volume that it names and no other, and of that volume only what the call is about (`Store.Confined`). So it is of
each call of the store, and so it is through the idempotent layer, where a call becomes up to two: the first may have taken
effect when the second fails. Only a deletion shows that, by a volume that is no longer attached; every other call that fails has
changed nothing (`Idempotent.layer_framed`).
-/

namespace VolumeDriver

open Program

namespace GatewayCall

/-- The identifier of the volume that a call is about: a creation is about the next one. -/
def subject (s : Store) : GatewayCall → Option VolumeId
  | create _ => some ⟨s.nextId⟩
  | delete id | attach id _ | detach id _ | resize id _ => some id
  | getById _ | getByName _ | all => none

/-- What a call may make of a volume that stays stored. -/
def Alters : GatewayCall → Volume → Volume → Prop
  | delete _, v, w | attach _ _, v, w | detach _ _, v, w =>
    w = { v with linuxDevice := w.linuxDevice, attachedServer := w.attachedServer }
  | resize _ _, v, w => w = { v with sizeGib := w.sizeGib } ∧ v.sizeGib ≤ w.sizeGib
  | create _, v, w | getById _, v, w | getByName _, v, w | all, v, w => w = v

/-- What an answer to a creation tells of the stores before and after it: a volume of a free name was added, under the next
identifier and with the labels that were given, or nothing was changed and the volume is the one of that name. -/
def Adds : (c : GatewayCall) → Except VolumeError c.Answer → Store → Store → Prop
  | create o, .ok v, s, t =>
    (¬ s.Taken o.name ∧ v.name = o.name ∧ v.id = ⟨s.nextId⟩ ∧ s.volumes.get? v.id = none ∧
        t = { s with
          nextId := s.nextId + 1, volumes := s.volumes.insert v.id v, labels := s.labels.insert v.id o.labels }) ∨
      (t = s ∧ v ∈ s.volumes.values ∧ v.name = o.name ∧ (∀ w ∈ s.volumes.values, w.name = o.name → w = v) ∧
        o.accepts v = true)
  | _, _, _, _ => True

/-- A volume may stay as it was. -/
theorem alters_self (c : GatewayCall) (v : Volume) : c.Alters v v := by
  cases c with
  | resize id sizeGib => exact ⟨rfl, UInt64.le_refl _⟩
  | _ => rfl

end GatewayCall

/-! ## Calls of the store -/

namespace Store

/-- From the first store to the second nothing has changed but what the call is about. -/
structure Confined (c : GatewayCall) (s t : Store) : Prop where
  servers_eq : t.servers = s.servers
  limit_eq : t.maxAttachments = s.maxAttachments
  nextId_eq : c.op ≠ .create → t.nextId = s.nextId
  /-- Whatever is or is not stored under other identifiers is as before, and so are the labels. -/
  others_eq : ∀ id, c.subject s ≠ some id → t.volumes.get? id = s.volumes.get? id ∧ t.labels.get? id = s.labels.get? id
  /-- A stored volume stays, with its identifier, name, location and labels, unless it is deleted. -/
  stays : ∀ id v, s.volumes.get? id = some v →
    (∃ w, t.volumes.get? id = some w ∧ v.Grown w ∧ c.Alters v w ∧ t.labels.get? id = s.labels.get? id) ∨
      (c = .delete id ∧ t.volumes.get? id = none)
  /-- A call about a volume that is not stored does nothing. -/
  missing : ∀ id, c.op ≠ .create → c.subject s = some id → s.volumes.get? id = none → t = s

variable {s t : Store} {c : GatewayCall} {id : VolumeId} {v w : Volume}

theorem Confined.refl (c : GatewayCall) (s : Store) : Confined c s s where
  servers_eq := rfl
  limit_eq := rfl
  nextId_eq _ := rfl
  others_eq _ _ := ⟨rfl, rfl⟩
  stays _ v hv := Or.inl ⟨v, hv, .refl v, c.alters_self v, rfl⟩
  missing _ _ _ _ := rfl

/-- A new volume takes the place of none. -/
theorem confined_withNew (hs : s.Distinct) (o : CreateOptions) : Confined (.create o) s (s.withNew o) := by
  have hother {j : VolumeId} (hj : j ≠ ⟨s.nextId⟩) :
      (s.withNew o).volumes.get? j = s.volumes.get? j ∧ (s.withNew o).labels.get? j = s.labels.get? j := by
    simp [withNew, hj]
  constructor
  case servers_eq => rfl
  case limit_eq => rfl
  case nextId_eq => exact fun hop => absurd rfl hop
  case others_eq => exact fun j hj => hother fun heq => hj (congrArg some heq.symm)
  case stays =>
    intro j u hu
    have hj : j ≠ ⟨s.nextId⟩ := by
      rintro rfl
      exact absurd (hs.id_lt _ u hu) (UInt64.lt_irrefl _)
    exact Or.inl ⟨u, (hother hj).1.trans hu, .refl u, rfl, (hother hj).2⟩
  case missing => exact fun _ hop => absurd rfl hop

/-- A volume is put in the place of itself. -/
theorem confined_put (hsubject : c.subject s = some id) (hv : s.volumes.get? id = some v)
    (hgrown : v.Grown w) (halters : c.Alters v w) : Confined c s (s.put id w) := by
  constructor
  case servers_eq => rfl
  case limit_eq => rfl
  case nextId_eq => exact fun _ => rfl
  case others_eq =>
    intro j hj
    have hne : j ≠ id := fun heq => hj (heq ▸ hsubject)
    exact ⟨by rw [put, SortedMap.get?_insert, if_neg hne], rfl⟩
  case stays =>
    intro j u hu
    rcases get?_put_cases hu id w with ⟨rfl, hget⟩ | ⟨_, hget⟩
    · rw [hv] at hu
      cases hu
      exact Or.inl ⟨w, hget, hgrown, halters, rfl⟩
    · exact Or.inl ⟨u, hget, .refl u, c.alters_self u, rfl⟩
  case missing =>
    intro j _ hj hnone
    rw [hsubject] at hj
    cases hj
    rw [hv] at hnone
    cases hnone

/-- A volume is forgotten with its labels. -/
theorem confined_forget (hv : s.volumes.get? id = some v) : Confined (.delete id) s (s.forget id) := by
  have hother {j : VolumeId} (hj : j ≠ id) :
      (s.forget id).volumes.get? j = s.volumes.get? j ∧ (s.forget id).labels.get? j = s.labels.get? j := by
    simp [forget, hj]
  constructor
  case servers_eq => rfl
  case limit_eq => rfl
  case nextId_eq => exact fun _ => rfl
  case others_eq => exact fun j hj => hother fun heq => hj (congrArg some heq.symm)
  case stays =>
    intro j u hu
    by_cases hj : j = id
    · exact Or.inr ⟨congrArg _ hj.symm, hj ▸ get?_forget s id⟩
    · exact Or.inl ⟨u, (hother hj).1.trans hu, .refl u, GatewayCall.alters_self _ u, (hother hj).2⟩
  case missing =>
    intro j _ hj hnone
    cases hj
    rw [hv] at hnone
    cases hnone

/-- What holds of a volume and itself with another holder. -/
theorem grown_held (id : VolumeId) (server : ServerId) (v : Volume) : v.Grown (held id server v) :=
  ⟨rfl, rfl, rfl, UInt64.le_refl _⟩

/-- To be released does not count against a volume. -/
theorem grown_released (v : Volume) : v.Grown (released v) := ⟨rfl, rfl, rfl, UInt64.le_refl _⟩

/-- A detachment changes nothing, or releases a volume that is stored. -/
theorem Step.of_detach {server : Option ServerId} (h : s.Step (.detach id server) t) :
    t = s ∨ ∃ v, s.volumes.get? id = some v ∧ t = s.put id (released v) := by
  cases h with
  | unchanged => exact Or.inl rfl
  | detached _ _ v hv => exact Or.inr ⟨v, hv, rfl⟩

/-- Each call of a store changes only what it is about. -/
theorem Step.confined (hs : s.Distinct) (h : s.Step c t) : Confined c s t := by
  cases h with
  | unchanged => exact .refl c s
  | created o _ => exact confined_withNew hs o
  | deleted id v hv => exact confined_forget hv
  | attached id server v hv => exact confined_put rfl hv (grown_held id server v) rfl
  | detached id server v hv => exact confined_put rfl hv (grown_released v) rfl
  | resized id sizeGib v hv hlt =>
    exact confined_put rfl hv ⟨rfl, rfl, rfl, UInt64.le_of_lt hlt⟩ ⟨rfl, UInt64.le_of_lt hlt⟩

end Store

/-! ## Through the idempotent layer -/

namespace Idempotent

open FaultyStore

/-- How a program for a call ends: it fails and has changed nothing, or it succeeds and has done what one call of the store can
do. -/
inductive Settles (c : GatewayCall) (s : Store) : Except VolumeError c.Answer → Store → Prop
  | failed (e : VolumeError) : Settles c s (.error e) s
  | succeeded (a : c.Answer) {t : Store} (h : s.Step c t) : Settles c s (.ok a) t

/-- What a program settles on is what one call of the store can leave. -/
theorem Settles.step {c : GatewayCall} {s t : Store} {r : Except VolumeError c.Answer} (h : Settles c s r t) : s.Step c t := by
  cases h with
  | failed e => exact .unchanged c
  | succeeded a hstep => exact hstep

/-- One call settles on its answer. -/
theorem settles_ask (c : GatewayCall) (s : FaultyStore) : Settles c s.store (answer c s).1 (answer c s).2.store := by
  have hstep := step_answer c s
  cases hreply : (answer c s).1 with
  | error e =>
    rw [store_answer_of_error hreply]
    exact .failed e
  | ok a => exact .succeeded a hstep

/-- A creation fails without a change, or adds the volume or finds it. -/
theorem settles_create (o : CreateOptions) (s : FaultyStore) :
    Settles (.create o) s.store ((create o).run answer s).1 ((create o).run answer s).2.store := by
  rw [create, bind_eq, run_bind]
  simp only [ask, run_call, run_done]
  split
  case h_1 hreply =>
    -- what is found by the name is only looked at
    have hsame := store_answer_of_error hreply
    have hlook := store_answer_of_looks (c := .getByName o.name) trivial (answer (.create o) s).2
    rw [bind_eq, run_bind]
    simp only [run_call, run_done]
    split
    case h_1 existing _ =>
      rw [pure_eq, run_done, hlook, hsame]
      dsimp only
      split
      · exact .succeeded (c := .create o) existing (.unchanged _)
      · exact .failed _
    all_goals
      rw [pure_eq, run_done, hlook, hsame]
      exact .failed _
  case h_2 => exact settles_ask (.create o) s

/-- An attachment fails without a change, or leaves the volume attached. -/
theorem settles_attach (id : VolumeId) (server : ServerId) (s : FaultyStore) :
    Settles (.attach id server) s.store ((attach id server).run answer s).1 ((attach id server).run answer s).2.store := by
  have hstep := step_answer (.attach id server) s
  rw [attach, bind_eq, run_bind]
  simp only [ask, run_call, run_done]
  split
  case h_1 => exact .succeeded (c := .attach id server) () hstep
  case h_2 e hreply =>
    -- who holds the volume is only looked at
    have hsame := store_answer_of_error hreply
    have hlook := store_answer_of_looks (c := .getById id) trivial (answer (.attach id server) s).2
    rw [bind_eq, run_bind]
    simp only [run_call, run_done]
    split
    case h_1 =>
      rw [pure_eq, run_done, hlook, hsame]
      dsimp only
      split
      · exact .succeeded (c := .attach id server) () (.unchanged _)
      · exact .failed _
    case h_2 =>
      rw [pure_eq, run_done, hlook, hsame]
      exact .failed _

/-- A detachment fails without a change, or leaves the volume detached. -/
theorem settles_detach (id : VolumeId) (server : Option ServerId) (s : FaultyStore) :
    Settles (.detach id server) s.store ((detach id server).run answer s).1 ((detach id server).run answer s).2.store := by
  rw [detach, bind_eq, run_bind]
  simp only [ask, run_call, run_done]
  split
  case h_3 => exact settles_ask (.detach id server) s
  -- the two errors that are taken for a success
  all_goals
    rename_i hreply
    rw [pure_eq, run_done, store_answer_of_error hreply]
    exact .succeeded (c := .detach id server) () (.unchanged _)

/-- A deletion that has come to its second call. -/
theorem settles_forgetting (id : VolumeId) (s : FaultyStore) :
    Settles (.delete id) s.store ((forgetting id).run answer s).1 ((forgetting id).run answer s).2.store := by
  rw [forgetting, bind_eq, run_bind]
  simp only [ask, run_call, run_done]
  split
  case h_1 hreply =>
    rw [pure_eq, run_done, store_answer_of_error hreply]
    exact .succeeded (c := .delete id) () (.unchanged _)
  case h_2 => exact settles_ask (.delete id) s

/-- A deletion ends as one call does, or it has first taken the volume from its server, and then ends so. -/
theorem settles_delete (id : VolumeId) (s : FaultyStore) :
    Settles (.delete id) s.store ((delete id).run answer s).1 ((delete id).run answer s).2.store ∨
      ∃ v, s.store.volumes.get? id = some v ∧
        Settles (.delete id) (s.store.put id (Store.released v)) ((delete id).run answer s).1
          ((delete id).run answer s).2.store := by
  have hfirst := (step_answer (.detach id none) s).of_detach
  have hsecond := settles_forgetting id (answer (.detach id none) s).2
  rw [delete, bind_eq, run_bind]
  simp only [ask, run_call, run_done]
  split
  case h_4 hreply =>
    rw [pure_eq, run_done, store_answer_of_error hreply]
    exact Or.inl (.failed _)
  -- the three outcomes after which the volume is forgotten
  all_goals
    rcases hfirst with hsame | ⟨v, hv, hreleased⟩
    · rw [hsame] at hsecond
      exact Or.inl hsecond
    · rw [hreleased] at hsecond
      exact Or.inr ⟨v, hv, hsecond⟩

/-- What an answer of the layer tells of the stores before and after it. -/
structure Framed (c : GatewayCall) (s : Store) (r : Except VolumeError c.Answer) (t : Store) : Prop
    extends Store.Confined c s t where
  adds : c.Adds r s t
  /-- After a failure everything is as before, but that a volume to be deleted may not be attached any more. -/
  failed : ∀ e, r = .error e →
    t = s ∨ ∃ id v, c = .delete id ∧ s.volumes.get? id = some v ∧ t = s.put id (Store.released v)

/-- A program that settles changes nothing but what its call is about. -/
theorem Settles.framed {c : GatewayCall} {s t : Store} {r : Except VolumeError c.Answer} (h : Settles c s r t) (hs : s.Distinct)
    (hadds : c.Adds r s t) : Framed c s r t := by
  cases h with
  | failed e => exact ⟨.refl c s, hadds, fun _ _ => Or.inl rfl⟩
  | succeeded a hstep =>
    refine ⟨hstep.confined hs, hadds, fun e he => ?_⟩
    cases he

/-- A deletion that first released its volume changes nothing but that volume. -/
theorem Settles.framed_released {id : VolumeId} {v : Volume} {s t : Store}
    {r : Except VolumeError (GatewayCall.delete id).Answer} (h : Settles (.delete id) (s.put id (Store.released v)) r t)
    (hv : s.volumes.get? id = some v) : Framed (.delete id) s r t := by
  have hput : Store.Confined (.delete id) s (s.put id (Store.released v)) :=
    Store.confined_put rfl hv (Store.grown_released v) rfl
  cases h with
  | failed e => exact ⟨hput, trivial, fun _ _ => Or.inr ⟨id, v, rfl, hv, rfl⟩⟩
  | succeeded a hstep =>
    refine ⟨?_, trivial, fun e he => by cases he⟩
    cases hstep with
    | unchanged => exact hput
    | deleted =>
      rw [Store.forget_put]
      exact Store.confined_forget hv

/-- What an answer to a creation tells of the store. -/
theorem adds_create (o : CreateOptions) {s : FaultyStore} (hs : s.store.Distinct) :
    (GatewayCall.create o).Adds ((create o).run answer s).1 s.store ((create o).run answer s).2.store := by
  rcases hrun : (create o).run answer s with ⟨_ | v, t⟩ <;> rw [hrun]
  · trivial
  · rcases create_cases hrun with ⟨hfree, rfl, hstore⟩ | ⟨hfound, haccepts, hstore⟩
    · exact Or.inl ⟨hfree, rfl, rfl, hs.get?_nextId, hstore⟩
    · obtain ⟨hmem, hname⟩ := Store.mem_values_of_getByName hfound
      obtain ⟨id, hget⟩ := SortedMap.mem_values_iff.1 hmem
      exact Or.inr ⟨hstore, hmem, hname, fun w hw hsame => hs.eq_of_name hget hw (hsame.trans hname.symm), haccepts⟩

/-- A deletion changes nothing but its volume. -/
theorem framed_delete (id : VolumeId) {s : FaultyStore} (hs : s.store.Distinct) :
    Framed (.delete id) s.store ((delete id).run answer s).1 ((delete id).run answer s).2.store := by
  rcases settles_delete id s with hsettles | ⟨v, hv, hsettles⟩
  · exact hsettles.framed hs trivial
  · exact hsettles.framed_released hv

/-- A call of a store whose names are distinct, and whose identifiers are smaller than the next, changes only what it is about,
whatever failures are to come; and if it fails it changes nothing, but that a volume to be deleted may not be attached any more. -/
theorem layer_framed {s : FaultyStore} (hs : s.store.Distinct) (c : GatewayCall) :
    Framed c s.store ((layer c).run answer s).1 ((layer c).run answer s).2.store := by
  cases c with
  | create o => exact (settles_create o s).framed hs (adds_create o hs)
  | delete id => exact framed_delete id hs
  | attach id server => exact (settles_attach id server s).framed hs trivial
  | detach id server => exact (settles_detach id server s).framed hs trivial
  | getById id => exact (settles_ask (.getById id) s).framed hs trivial
  | getByName name => exact (settles_ask (.getByName name) s).framed hs trivial
  | resize id sizeGib => exact (settles_ask (.resize id sizeGib) s).framed hs trivial
  | all => exact (settles_ask .all s).framed hs trivial

/-- A deletion whose second call fails: the volume is still stored, but no server holds it. -/
theorem layer_framed_undeleted :
    let before : Store := (Store.addServer { maxAttachments := 1 } ⟨1⟩).withNew ⟨"a", 10, 0, "fsn1", .empty⟩
    let s : FaultyStore := { store := (before.attach ⟨1⟩ ⟨1⟩).2, failures := [(.delete, .other "busy")] }
    let t := ((layer (.delete ⟨1⟩)).run answer s).2.store
    (s.store.Distinct ∧ s.store.attachedTo ⟨1⟩ = 1) ∧ Framed (.delete ⟨1⟩) s.store (.error (.other "busy")) t ∧
      t.attachedTo ⟨1⟩ = 0 ∧ t.volumes.values.length = 1 := by
  intro before s t
  have hbefore : before.Sound := ((Store.sound_empty 1).addServer ⟨1⟩).withNew nofun (by decide)
  have hs : s.store.Distinct := (hbefore.step (before.step_answer (.attach ⟨1⟩ ⟨1⟩)) nofun).1.distinct
  exact ⟨⟨hs, by decide +kernel⟩, layer_framed hs (.delete ⟨1⟩), by decide +kernel, by decide +kernel⟩

end Idempotent

end VolumeDriver
