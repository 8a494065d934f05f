import VolumeDriver.Gateway.Idempotent
import VolumeDriver.Proofs.Gateway.Lasting
import VolumeDriver.Proofs.Program

/-!
# What holds of every store that the calls lead to

A store is sound (`Store.Sound`) if its names, identifiers, attachments and labels fit together. The store without volumes is
sound, and each call of a sound store leaves a sound one: a call that changes anything makes a volume, forgets one or puts one
in the place of itself. So whatever happens to a gateway that was empty, its store is sound, and no identifier is given out
twice (`sound_after`).
-/

namespace VolumeDriver

open Program

/-- The device path is set exactly while a server holds the volume, and is then that of its identifier. -/
def Volume.Placed (v : Volume) : Prop :=
  (v.linuxDevice ≠ "" ↔ v.attachedServer ≠ none) ∧
    (v.attachedServer ≠ none → v.linuxDevice = Store.devicePath v.id)

namespace Store

/-- The device path of an identifier is not empty. -/
theorem devicePath_ne_empty (id : VolumeId) : devicePath id ≠ "" := fun h =>
  absurd (String.append_eq_empty_iff.1 h).1 (by decide)

/-- What always holds of a provider's volumes. -/
structure Sound (s : Store) : Prop where
  /-- No two volumes have one name. -/
  names_nodup : (s.volumes.values.map (·.name)).Nodup
  /-- Every volume stands under its own identifier. -/
  id_eq : ∀ id v, s.volumes.get? id = some v → v.id = id
  /-- The identifiers to come are larger than those in use. -/
  id_lt : ∀ id v, s.volumes.get? id = some v → id.val < s.nextId
  placed : ∀ id v, s.volumes.get? id = some v → v.Placed
  /-- Only servers that exist hold volumes. -/
  server_mem : ∀ id v server, s.volumes.get? id = some v → v.attachedServer = some server → server ∈ s.servers
  /-- No server holds more volumes than it has places for. -/
  attachedTo_le : ∀ server, s.attachedTo server ≤ s.maxAttachments
  /-- There are labels for the volumes, and for them alone. -/
  labels_iff : ∀ id, (s.labels.get? id).isSome = true ↔ (s.volumes.get? id).isSome = true

/-- A store without volumes is sound. -/
theorem sound_empty (limit : Nat) : Sound { maxAttachments := limit } where
  names_nodup := List.nodup_nil
  id_eq := nofun
  id_lt := nofun
  placed := nofun
  server_mem := nofun
  attachedTo_le _ := Nat.zero_le _
  labels_iff _ := Iff.rfl

namespace Sound

variable {s : Store}

/-- The volumes of a sound store are distinct. -/
theorem distinct (h : s.Sound) : s.Distinct := ⟨h.names_nodup, h.id_lt⟩

/-! ## Making a volume -/

/-- A new volume under a free name keeps a store sound, unless identifiers have run out. -/
theorem withNew (h : s.Sound) {o : CreateOptions} (hfree : ¬ s.Taken o.name) (hnext : s.nextId < s.nextId + 1) :
    (s.withNew o).Sound := by
  have hdistinct := h.distinct.withNew hfree hnext
  constructor
  case names_nodup => exact hdistinct.names_nodup
  case id_eq =>
    intro id v hv
    rcases SortedMap.of_get?_insert hv with ⟨rfl, rfl⟩ | hold
    · rfl
    · exact h.id_eq id v hold
  case id_lt => exact hdistinct.id_lt
  case placed =>
    intro id v hv
    rcases SortedMap.of_get?_insert hv with ⟨rfl, rfl⟩ | hold
    · simp [Volume.Placed, newVolume]
    · exact h.placed id v hold
  case server_mem =>
    intro id v server hv hheld
    rcases SortedMap.of_get?_insert hv with ⟨rfl, rfl⟩ | hold
    · cases hheld
    · exact h.server_mem id v server hold hheld
  case attachedTo_le =>
    intro server
    have hcount : (s.withNew o).attachedTo server = s.attachedTo server := by
      rw [attachedTo, (h.distinct.values_withNew o).countP_eq, List.countP_cons_of_neg (by simp [newVolume]), attachedTo]
    rw [hcount]
    exact h.attachedTo_le server
  case labels_iff =>
    intro id
    rw [Store.withNew, SortedMap.get?_insert, SortedMap.get?_insert]
    split
    · exact Iff.rfl
    · exact h.labels_iff id

/-! ## Forgetting a volume -/

/-- A sound store stays sound if a volume is forgotten. -/
theorem forget (h : s.Sound) (id : VolumeId) : (s.forget id).Sound := by
  have hsub : (s.forget id).volumes.values.Sublist s.volumes.values := List.filter_sublist.map _
  have hdistinct := h.distinct.forget id
  constructor
  case names_nodup => exact hdistinct.names_nodup
  case id_eq => exact fun j v hv => h.id_eq j v (SortedMap.of_get?_erase hv)
  case id_lt => exact hdistinct.id_lt
  case placed => exact fun j v hv => h.placed j v (SortedMap.of_get?_erase hv)
  case server_mem => exact fun j v server hv => h.server_mem j v server (SortedMap.of_get?_erase hv)
  case attachedTo_le => exact fun server => Nat.le_trans hsub.countP_le (h.attachedTo_le server)
  case labels_iff =>
    intro j
    rw [Store.forget, SortedMap.get?_erase, SortedMap.get?_erase]
    split
    · exact Iff.rfl
    · exact h.labels_iff j

/-! ## Changing a volume -/

/-- A volume that is put in the place of itself keeps a store sound, if it is placed well. -/
theorem put (h : s.Sound) {id : VolumeId} {v w : Volume} (hv : s.volumes.get? id = some v) (hid : w.id = v.id)
    (hname : w.name = v.name) (hplaced : w.Placed)
    (hserver : ∀ server, w.attachedServer = some server → v.attachedServer = some server ∨
      (server ∈ s.servers ∧ s.attachedTo server < s.maxAttachments)) :
    (s.put id w).Sound := by
  have hbefore := SortedMap.values_perm_of_get? hv
  have hafter : (s.put id w).volumes.values.Perm (w :: (s.volumes.erase id).values) :=
    SortedMap.values_insert_perm s.volumes id w
  have hdistinct := h.distinct.put hv hname
  constructor
  case names_nodup => exact hdistinct.names_nodup
  case id_eq =>
    intro j u hu
    rcases SortedMap.of_get?_insert hu with ⟨rfl, rfl⟩ | hold
    · rw [hid, h.id_eq j v hv]
    · exact h.id_eq j u hold
  case id_lt => exact hdistinct.id_lt
  case placed =>
    intro j u hu
    rcases SortedMap.of_get?_insert hu with ⟨rfl, rfl⟩ | hold
    · exact hplaced
    · exact h.placed j u hold
  case server_mem =>
    intro j u server hu hheld
    rcases SortedMap.of_get?_insert hu with ⟨rfl, rfl⟩ | hold
    · rcases hserver server hheld with hheld | ⟨hmem, _⟩
      · exact h.server_mem j v server hv hheld
      · exact hmem
    · exact h.server_mem j u server hold hheld
  case attachedTo_le =>
    intro server
    have hlimit := h.attachedTo_le server
    rw [attachedTo, hbefore.countP_eq, List.countP_cons] at hlimit
    show (s.put id w).attachedTo server ≤ s.maxAttachments
    rw [attachedTo, hafter.countP_eq, List.countP_cons]
    by_cases hheld : w.attachedServer = some server
    · rcases hserver server hheld with hheld' | ⟨_, hroom⟩
      · simpa [hheld, hheld'] using hlimit
      · rw [attachedTo, hbefore.countP_eq, List.countP_cons] at hroom
        simp only [hheld, decide_true, if_true]
        omega
    · simp only [hheld, decide_false, Bool.false_eq_true, if_false]
      omega
  case labels_iff =>
    intro j
    rw [Store.put, SortedMap.get?_insert]
    split
    · rename_i hj
      rw [h.labels_iff, hj, hv]
      simp
    · exact h.labels_iff j

/-- One more server that exists keeps a store sound. -/
theorem addServer (h : s.Sound) (server : ServerId) : (s.addServer server).Sound := by
  rcases s.addServer_cases server with hs | hs <;> rw [hs]
  · exact h
  · exact { h with server_mem := fun id v other hv hheld => List.mem_append_left _ (h.server_mem id v other hv hheld) }

/-! ## Calls -/

/-- Every call but one to make a volume leaves a sound store, with the next identifier and the limit that it had. -/
theorem step (h : s.Sound) {c : GatewayCall} {t : Store} (hstep : s.Step c t) (hc : c.op ≠ .create) :
    t.Sound ∧ t.nextId = s.nextId ∧ t.maxAttachments = s.maxAttachments := by
  cases hstep with
  | unchanged => exact ⟨h, rfl, rfl⟩
  | created o _ => exact absurd rfl hc
  | deleted id => exact ⟨h.forget id, rfl, rfl⟩
  | attached id server v hv hserver _ hroom =>
    have hplaced : (held id server v).Placed :=
      ⟨by simp [held, devicePath_ne_empty], fun _ => by rw [held, h.id_eq id v hv]⟩
    refine ⟨h.put hv rfl rfl hplaced fun other hheld => Or.inr ?_, rfl, rfl⟩
    cases hheld
    exact ⟨hserver, hroom⟩
  | detached id _ v hv => exact ⟨h.put hv rfl rfl (by simp [Volume.Placed, released]) (by rintro _ ⟨⟩), rfl, rfl⟩
  | resized id _ v hv _ => exact ⟨h.put hv rfl rfl (h.placed id v hv) fun _ => Or.inl, rfl, rfl⟩

end Sound

end Store

/-! ## Everything that can happen -/

/-- What can happen to a gateway. -/
inductive GatewayEvent where
  | call (c : GatewayCall)
  /-- A call through the idempotent layer. -/
  | layered (c : GatewayCall)
  | addServer (id : ServerId)
  | failNext (op : GatewayOp) (e : VolumeError)

namespace FaultyStore

/-- A gateway without volumes, each of whose servers has so many places. -/
def empty (limit : Nat) : FaultyStore := { store := { maxAttachments := limit } }

/-- The calls that an event makes, with their replies, and what it leaves. -/
def occur : GatewayEvent → FaultyStore → List (Exchange gateway) × FaultyStore
  | .call c, s => ((askGateway c).exchanges answer s, ((askGateway c).run answer s).2)
  | .layered c, s => ((Idempotent.layer c).exchanges answer s, ((Idempotent.layer c).run answer s).2)
  | .addServer id, s => ([], { s with store := s.store.addServer id })
  | .failNext op e, s => ([], s.failNext op e)

/-- The calls that events make, one after the other, and what they leave. -/
def history : List GatewayEvent → FaultyStore → List (Exchange gateway) × FaultyStore
  | [], s => ([], s)
  | e :: es, s =>
    let (calls, t) := occur e s
    let (rest, u) := history es t
    (calls ++ rest, u)

section Preservation

variable {P : List (Exchange gateway) → FaultyStore → Prop}
  (hcall : ∀ c xs s, P xs s → P (xs ++ [⟨c, (answer c s).1⟩]) (answer c s).2)
  (hserver : ∀ id xs s, P xs s → P xs { s with store := s.store.addServer id })
  (hfail : ∀ op e xs s, P xs s → P xs (s.failNext op e))

include hcall hserver hfail

/-- What every call keeps, and every new server, an event keeps. -/
theorem occur_preserves {xs : List (Exchange gateway)} {s : FaultyStore} (h : P xs s) (e : GatewayEvent) :
    P (xs ++ (occur e s).1) (occur e s).2 := by
  cases e with
  | call c => exact exchanges_preserve hcall (askGateway c) h
  | layered c => exact exchanges_preserve hcall (Idempotent.layer c) h
  | addServer id =>
    rw [occur, List.append_nil]
    exact hserver id xs s h
  | failNext op e =>
    rw [occur, List.append_nil]
    exact hfail op e xs s h

/-- What every call keeps, with new servers and with failures, whatever happens keeps. -/
theorem history_preserves {xs : List (Exchange gateway)} {s : FaultyStore} (h : P xs s) (events : List GatewayEvent) :
    P (xs ++ (history events s).1) (history events s).2 := by
  induction events generalizing xs s with
  | nil => rwa [history, List.append_nil]
  | cons e es ih =>
    rw [history, ← List.append_assoc]
    exact ih (occur_preserves hcall hserver hfail h e)

end Preservation

end FaultyStore

/-- The identifier that a call gave out, if it made a volume. -/
def givenOut : Exchange gateway → Option VolumeId
  | ⟨.create _, .ok v⟩ => some v.id
  | _ => none

/-- A failure gives out no identifier. -/
theorem givenOut_error {c : GatewayCall} {r : Except VolumeError c.Answer} {e : VolumeError} (h : r = .error e) :
    givenOut ⟨c, r⟩ = none := by
  subst h
  cases c <;> rfl

/-- Only a creation gives out an identifier. -/
theorem givenOut_of_op_ne {c : GatewayCall} (h : c.op ≠ .create) (r : Except VolumeError c.Answer) :
    givenOut ⟨c, r⟩ = none := by
  cases c with
  | create o => exact absurd rfl h
  | _ => rfl

/-- The identifiers that were given out before and by one more call. -/
theorem filterMap_givenOut_snoc (calls : List (Exchange gateway)) (x : Exchange gateway) :
    (calls ++ [x]).filterMap givenOut = calls.filterMap givenOut ++ (givenOut x).toList := by
  cases h : givenOut x <;> simp [h]

/-- The store is sound, and these identifiers, all different, were given out on the way to it. -/
structure Store.Reached (limit : Nat) (ids : List VolumeId) (s : Store) : Prop where
  sound : s.Sound
  limit_eq : s.maxAttachments = limit
  nodup : ids.Nodup
  lt_next : ∀ id ∈ ids, id.val < s.nextId
  next_eq : s.nextId.toNat = ids.length + 1

namespace Store.Reached

variable {limit : Nat} {ids : List VolumeId} {s : Store}

/-- A gateway without volumes has given out no identifiers. -/
theorem empty (limit : Nat) : Reached limit [] { maxAttachments := limit } :=
  ⟨sound_empty limit, rfl, List.nodup_nil, nofun, rfl⟩

/-- A volume that is made is given the next identifier. -/
theorem withNew (h : Reached limit ids s) {o : CreateOptions} (hfree : ¬ s.Taken o.name)
    (hids : ids.length + 2 < UInt64.size) : Reached limit (ids ++ [⟨s.nextId⟩]) (s.withNew o) := by
  have hnext : (s.nextId + 1).toNat = s.nextId.toNat + 1 := toNat_nextId_succ (by rw [h.next_eq]; exact hids)
  have hlt : s.nextId < s.nextId + 1 := by
    rw [UInt64.lt_iff_toNat_lt, hnext]
    exact Nat.lt_succ_self _
  refine ⟨h.sound.withNew hfree hlt, h.limit_eq, ?_, ?_, ?_⟩
  · refine List.nodup_append.2 ⟨h.nodup, by simp, ?_⟩
    rintro id hid _ hnew rfl
    rw [List.mem_singleton.1 hnew] at hid
    exact UInt64.lt_irrefl _ (h.lt_next _ hid)
  · intro id hid
    rcases List.mem_append.1 hid with hid | hid
    · exact UInt64.lt_trans (h.lt_next id hid) hlt
    · rw [List.mem_singleton.1 hid]
      exact hlt
  · show (s.nextId + 1).toNat = _
    rw [hnext, h.next_eq, List.length_append, List.length_singleton]

/-- A call keeps what holds, as long as identifiers have not run out. -/
theorem answer (h : Reached limit ids s) (c : GatewayCall)
    (hids : (ids ++ (givenOut ⟨c, (s.answer c).1⟩).toList).length + 1 < UInt64.size) :
    Reached limit (ids ++ (givenOut ⟨c, (s.answer c).1⟩).toList) (s.answer c).2 := by
  by_cases hc : c.op = .create
  · cases c with
    | create o =>
      by_cases htaken : s.Taken o.name
      · rw [Store.answer, create_of_taken htaken, givenOut_error rfl, Option.toList_none, List.append_nil]
        exact h
      · rw [Store.answer, create_of_free htaken] at hids ⊢
        exact h.withNew htaken (by simpa [givenOut] using hids)
    | _ => cases hc
  · obtain ⟨hsound, hnext, hlimit⟩ := h.sound.step (step_answer c s) hc
    rw [givenOut_of_op_ne hc, Option.toList_none, List.append_nil]
    exact ⟨hsound, hlimit.trans h.limit_eq, h.nodup, by rw [hnext]; exact h.lt_next, by rw [hnext]; exact h.next_eq⟩

/-- A new server gives out no identifiers. -/
theorem addServer (h : Reached limit ids s) (server : ServerId) : Reached limit ids (s.addServer server) := by
  have hsound := h.sound.addServer server
  rcases s.addServer_cases server with hs | hs <;> rw [hs] at hsound ⊢
  · exact h
  · exact ⟨hsound, h.limit_eq, h.nodup, h.lt_next, h.next_eq⟩

end Store.Reached

namespace FaultyStore

/-- Unless more identifiers were given out by the calls than there are, the store is sound. -/
def SoundAfter (limit : Nat) (calls : List (Exchange gateway)) (s : FaultyStore) : Prop :=
  (calls.filterMap givenOut).length + 1 < UInt64.size → s.store.Reached limit (calls.filterMap givenOut)

variable {limit : Nat} {calls : List (Exchange gateway)} {s : FaultyStore}

/-- One more call leaves the store sound. -/
theorem SoundAfter.answer (h : SoundAfter limit calls s) (c : GatewayCall) :
    SoundAfter limit (calls ++ [⟨c, (answer c s).1⟩]) (answer c s).2 := by
  intro hids
  rw [filterMap_givenOut_snoc] at hids ⊢
  rcases answer_cases c s with ⟨⟨e, he⟩, hstore⟩ | ⟨hr, hstore⟩
  · rw [givenOut_error he, Option.toList_none, List.append_nil] at hids ⊢
    rw [hstore]
    exact h hids
  · rw [hr] at hids ⊢
    rw [hstore]
    refine Store.Reached.answer (h ?_) c hids
    rw [List.length_append] at hids
    omega

/-- More events leave the store sound. -/
theorem SoundAfter.history (h : SoundAfter limit calls s) (events : List GatewayEvent) :
    SoundAfter limit (calls ++ (history events s).1) (history events s).2 :=
  history_preserves (fun c _ _ ht => ht.answer c) (fun server _ _ ht hids => (ht hids).addServer server)
    (fun _ _ _ _ ht => ht) h events

/-- Whatever happens to a gateway that was empty, as long as identifiers have not run out, its store is sound, each server has
as many places as at first, and no identifier is given out twice; those to come are larger. -/
theorem sound_after (limit : Nat) (events : List GatewayEvent)
    (hids : ((history events (empty limit)).1.filterMap givenOut).length + 1 < UInt64.size) :
    (history events (empty limit)).2.store.Sound ∧
      (history events (empty limit)).2.store.maxAttachments = limit ∧
      ((history events (empty limit)).1.filterMap givenOut).Nodup ∧
      ∀ id ∈ (history events (empty limit)).1.filterMap givenOut, id.val < (history events (empty limit)).2.store.nextId := by
  have hempty : SoundAfter limit [] (empty limit) := fun _ => Store.Reached.empty limit
  obtain ⟨hsound, hlimit, hnodup, hlt, _⟩ := hempty.history events hids
  exact ⟨hsound, hlimit, hnodup, hlt⟩

/-- Two volumes for one place, a failure, and a volume that is deleted while it is attached. -/
def exampleEvents : List GatewayEvent :=
  [.addServer ⟨1⟩, .call (.create ⟨"a", 10, 0, "fsn1", .empty⟩), .failNext .create (.other "busy"),
   .layered (.create ⟨"b", 10, 0, "fsn1", .empty⟩), .layered (.create ⟨"b", 20, 0, "fsn1", .empty⟩),
   .layered (.attach ⟨1⟩ ⟨1⟩), .call (.attach ⟨2⟩ ⟨1⟩), .layered (.delete ⟨1⟩), .call (.create ⟨"a", 10, 0, "fsn1", .empty⟩),
   .layered (.attach ⟨3⟩ ⟨1⟩), .call (.resize ⟨3⟩ 30), .call .all]

/-- The events that are checked by hand leave a sound store. -/
theorem sound_after_example :
    ((history exampleEvents (empty 1)).1.filterMap givenOut).length + 1 < UInt64.size ∧
      (history exampleEvents (empty 1)).2.store.Sound ∧
      (history exampleEvents (empty 1)).2.store.maxAttachments = 1 ∧
      ((history exampleEvents (empty 1)).1.filterMap givenOut).Nodup ∧
      ∀ id ∈ (history exampleEvents (empty 1)).1.filterMap givenOut,
        id.val < (history exampleEvents (empty 1)).2.store.nextId :=
  ⟨by decide +kernel, sound_after 1 exampleEvents (by decide +kernel)⟩

end FaultyStore

end VolumeDriver
