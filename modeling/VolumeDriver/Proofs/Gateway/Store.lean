import VolumeDriver.Gateway.Store
import VolumeDriver.Proofs.SortedMap

/-!
# What each call does to a store

One statement for each call that can change a store: the outcomes it has, when each arises, and the store each leaves. A call
that fails leaves the store as it was. `Store.Step` has what any call can leave.
-/

namespace VolumeDriver

namespace Store

/-- Some volume has the name. -/
def Taken (s : Store) (name : String) : Prop := ∃ v ∈ s.volumes.values, v.name = name

/-- Looking through the volumes tells whether a name is taken. -/
theorem any_name_iff (s : Store) (name : String) : s.volumes.values.any (·.name = name) = true ↔ s.Taken name := by
  simp [Taken]

/-- A server is added at the end, unless it is there. -/
theorem addServer_cases (s : Store) (server : ServerId) :
    s.addServer server = s ∨ s.addServer server = { s with servers := s.servers ++ [server] } := by
  unfold addServer
  split
  · exact Or.inl rfl
  · exact Or.inr rfl

/-! ## Creating -/

/-- The volume that is made for options. -/
def newVolume (o : CreateOptions) (s : Store) : Volume := ⟨⟨s.nextId⟩, o.name, o.minSizeGib, o.location, "", none⟩

/-- The store with a new volume. -/
def withNew (o : CreateOptions) (s : Store) : Store :=
  { s with
    nextId := s.nextId + 1
    volumes := s.volumes.insert ⟨s.nextId⟩ (s.newVolume o)
    labels := s.labels.insert ⟨s.nextId⟩ o.labels }

/-- Under a name that is taken no volume is made. -/
theorem create_of_taken {o : CreateOptions} {s : Store} (h : s.Taken o.name) :
    s.create o = (.error .volumeAlreadyExists, s) := by
  rw [create, if_pos ((any_name_iff s o.name).2 h)]

/-- Under a free name the volume is made. -/
theorem create_of_free {o : CreateOptions} {s : Store} (h : ¬ s.Taken o.name) :
    s.create o = (.ok (s.newVolume o), s.withNew o) := by
  rw [create, if_neg (mt (any_name_iff s o.name).1 h)]
  rfl

/-- Once a volume is made, its name is taken. -/
theorem taken_withNew (o : CreateOptions) (s : Store) : (s.withNew o).Taken o.name :=
  ⟨s.newVolume o, SortedMap.mem_values_insert_self _ _ _, rfl⟩

/-- The new volume is stored. -/
theorem get?_withNew_self (o : CreateOptions) (s : Store) :
    (s.withNew o).volumes.get? (s.newVolume o).id = some (s.newVolume o) := by
  simp [withNew, newVolume]

/-- A volume that is made under a free name is the one of that name. -/
theorem findName_withNew {o : CreateOptions} {s : Store} (h : ¬ s.Taken o.name) :
    (s.withNew o).findName o.name = some (s.newVolume o) := by
  cases hf : (s.withNew o).findName o.name with
  | none =>
    have hnone := List.find?_eq_none.1 hf _ (SortedMap.mem_values_insert_self _ _ _)
    simp [newVolume] at hnone
  | some v =>
    have hname := List.find?_some hf
    rcases SortedMap.mem_values_insert (List.mem_of_find?_eq_some hf) with rfl | hold
    · rfl
    · exact absurd ⟨v, hold, of_decide_eq_true hname⟩ h

/-! ## Looking -/

/-- A stored volume is found by its identifier. -/
theorem getById_of_get? {s : Store} {id : VolumeId} {v : Volume} (h : s.volumes.get? id = some v) : s.getById id = .ok v := by
  rw [getById, h]

/-- A volume that is found by an identifier is stored under it. -/
theorem get?_of_getById {s : Store} {id : VolumeId} {v : Volume} (h : s.getById id = .ok v) : s.volumes.get? id = some v := by
  unfold getById at h
  split at h
  case h_1 hget => rwa [← Except.ok.inj h]
  case h_2 => cases h

/-- A volume that was put under an identifier is stored there. -/
@[simp]
theorem get?_put (s : Store) (id : VolumeId) (v : Volume) : (s.put id v).volumes.get? id = some v := by
  simp [put]

/-- What is put in a place stands there alone. -/
@[simp]
theorem put_put (s : Store) (id : VolumeId) (v w : Volume) : (s.put id v).put id w = s.put id w := by
  simp [put, SortedMap.insert_insert]

/-- To put a volume in the place of itself changes nothing. -/
theorem put_of_get? {s : Store} {id : VolumeId} {v : Volume} (h : s.volumes.get? id = some v) : s.put id v = s := by
  rw [put, SortedMap.insert_of_get? h]

/-! ## Deleting -/

/-- The store without a volume and its labels. -/
def forget (s : Store) (id : VolumeId) : Store := { s with volumes := s.volumes.erase id, labels := s.labels.erase id }

/-- A volume that was forgotten is not stored. -/
@[simp]
theorem get?_forget (s : Store) (id : VolumeId) : (s.forget id).volumes.get? id = none := by
  simp [forget]

/-- What stood in the place of a volume is forgotten with it. -/
@[simp]
theorem forget_put (s : Store) (id : VolumeId) (v : Volume) : (s.put id v).forget id = s.forget id := by
  simp [forget, put, SortedMap.erase_insert]

/-- What a deletion can come to: there is no such volume, a server holds it, or it is forgotten. -/
theorem delete_cases (s : Store) (id : VolumeId) :
    (s.volumes.get? id = none ∧ s.delete id = (.error .volumeNotFound, s)) ∨
      ∃ v, s.volumes.get? id = some v ∧
        ((v.attachedServer ≠ none ∧ s.delete id = (.error .attached, s)) ∨
          (v.attachedServer = none ∧ s.delete id = (.ok (), s.forget id))) := by
  cases h : s.volumes.get? id with
  | none => exact Or.inl ⟨rfl, by simp [delete, h]⟩
  | some v =>
    refine Or.inr ⟨v, rfl, ?_⟩
    cases ha : v.attachedServer with
    | none => exact Or.inr ⟨rfl, by simp [delete, h, ha, forget]⟩
    | some holder => exact Or.inl ⟨by simp, by simp [delete, h, ha]⟩

/-! ## Attaching and detaching -/

/-- A volume as it is while a server holds it. -/
def held (id : VolumeId) (server : ServerId) (v : Volume) : Volume :=
  { v with attachedServer := some server, linuxDevice := devicePath id }

/-- A volume as it is while no server holds it. -/
def released (v : Volume) : Volume := { v with attachedServer := none, linuxDevice := "" }

/-- What an attachment can come to: volume or server are missing, the volume is held, the server is full, or it holds the volume
then. -/
theorem attach_cases (s : Store) (id : VolumeId) (server : ServerId) :
    (s.volumes.get? id = none ∧ s.attach id server = (.error .volumeNotFound, s)) ∨
      ∃ v, s.volumes.get? id = some v ∧
        ((server ∉ s.servers ∧ s.attach id server = (.error .serverNotFound, s)) ∨
          (server ∈ s.servers ∧ v.attachedServer ≠ none ∧ s.attach id server = (.error .attached, s)) ∨
          (server ∈ s.servers ∧ v.attachedServer = none ∧ s.maxAttachments ≤ s.attachedTo server ∧
            s.attach id server = (.error .attachLimitReached, s)) ∨
          (server ∈ s.servers ∧ v.attachedServer = none ∧ s.attachedTo server < s.maxAttachments ∧
            s.attach id server = (.ok (), s.put id (held id server v)))) := by
  cases h : s.volumes.get? id with
  | none => exact Or.inl ⟨rfl, by simp [attach, h]⟩
  | some v =>
    refine Or.inr ⟨v, rfl, ?_⟩
    by_cases hs : server ∈ s.servers
    · cases ha : v.attachedServer with
      | some holder => exact Or.inr (Or.inl ⟨hs, by simp, by simp [attach, h, hs, ha]⟩)
      | none =>
        by_cases hm : s.maxAttachments ≤ s.attachedTo server
        · exact Or.inr (Or.inr (Or.inl ⟨hs, rfl, hm, by simp [attach, h, hs, ha, hm]⟩))
        · exact Or.inr (Or.inr (Or.inr ⟨hs, rfl, Nat.lt_of_not_le hm, by simp [attach, h, hs, ha, hm, held]⟩))
    · exact Or.inl ⟨hs, by simp [attach, h, hs]⟩

/-- A volume that was attached is held by the server. -/
theorem held_of_attach {s : Store} {id : VolumeId} {server : ServerId} (h : (s.attach id server).1 = .ok ()) :
    ∃ v, (s.attach id server).2.volumes.get? id = some v ∧ v.attachedServer = some server := by
  rcases s.attach_cases id server with
    ⟨_, ha⟩ | ⟨v, _, ⟨_, ha⟩ | ⟨_, _, ha⟩ | ⟨_, _, _, ha⟩ | ⟨_, _, _, ha⟩⟩ <;> rw [ha] at h ⊢
  case inr.inr.inr.inr => exact ⟨held id server v, get?_put _ _ _, rfl⟩
  all_goals cases h

/-- What a detachment can come to: there is no such volume, no server or another one holds it, or it is released. -/
theorem detach_cases (s : Store) (id : VolumeId) (server : Option ServerId) :
    (s.volumes.get? id = none ∧ s.detach id server = (.error .volumeNotFound, s)) ∨
      ∃ v, s.volumes.get? id = some v ∧
        ((v.attachedServer = none ∧ s.detach id server = (.error .notAttached, s)) ∨
          ∃ holder, v.attachedServer = some holder ∧
            (((∃ named, server = some named ∧ holder ≠ named) ∧ s.detach id server = (.error .attached, s)) ∨
              ((server = none ∨ server = some holder) ∧ s.detach id server = (.ok (), s.put id (released v))))) := by
  cases h : s.volumes.get? id with
  | none => exact Or.inl ⟨rfl, by simp [detach, h]⟩
  | some v =>
    refine Or.inr ⟨v, rfl, ?_⟩
    cases ha : v.attachedServer with
    | none => exact Or.inl ⟨rfl, by simp [detach, h, ha]⟩
    | some holder =>
      refine Or.inr ⟨holder, rfl, ?_⟩
      cases server with
      | none => exact Or.inr ⟨Or.inl rfl, by simp [detach, h, ha, released]⟩
      | some named =>
        by_cases hn : holder = named
        · exact Or.inr ⟨Or.inr (by rw [hn]), by simp [detach, h, ha, hn, released]⟩
        · exact Or.inl ⟨⟨named, rfl, hn⟩, by simp [detach, h, ha, hn]⟩

/-! ## Growing -/

/-- What a resizing can come to: there is no such volume, it is large enough, or it has the new size then. -/
theorem resize_cases (s : Store) (id : VolumeId) (sizeGib : UInt64) :
    (s.volumes.get? id = none ∧ s.resize id sizeGib = (.error .volumeNotFound, s)) ∨
      ∃ v, s.volumes.get? id = some v ∧
        ((sizeGib ≤ v.sizeGib ∧ s.resize id sizeGib = (.error .volumeSizeAlreadyReached, s)) ∨
          (v.sizeGib < sizeGib ∧ s.resize id sizeGib = (.ok (), s.put id { v with sizeGib := sizeGib }))) := by
  cases h : s.volumes.get? id with
  | none => exact Or.inl ⟨rfl, by simp [resize, h]⟩
  | some v =>
    refine Or.inr ⟨v, rfl, ?_⟩
    by_cases hs : sizeGib ≤ v.sizeGib
    · exact Or.inl ⟨hs, by simp [resize, h, hs]⟩
    · exact Or.inr ⟨UInt64.not_le.1 hs, by simp [resize, h, hs]⟩

/-! ## All calls -/

/-- What a call can leave: the store as it was, or with one change, under the conditions of the call. -/
inductive Step (s : Store) : GatewayCall → Store → Prop
  | unchanged (c : GatewayCall) : Step s c s
  | created (o : CreateOptions) (free : ¬ s.Taken o.name) : Step s (.create o) (s.withNew o)
  | deleted (id : VolumeId) (v : Volume) (found : s.volumes.get? id = some v) (free : v.attachedServer = none) :
      Step s (.delete id) (s.forget id)
  | attached (id : VolumeId) (server : ServerId) (v : Volume) (found : s.volumes.get? id = some v)
      (exists_server : server ∈ s.servers) (free : v.attachedServer = none) (room : s.attachedTo server < s.maxAttachments) :
      Step s (.attach id server) (s.put id (held id server v))
  | detached (id : VolumeId) (server : Option ServerId) (v : Volume) (found : s.volumes.get? id = some v) :
      Step s (.detach id server) (s.put id (released v))
  | resized (id : VolumeId) (sizeGib : UInt64) (v : Volume) (found : s.volumes.get? id = some v) (grows : v.sizeGib < sizeGib) :
      Step s (.resize id sizeGib) (s.put id { v with sizeGib := sizeGib })

/-- What a call leaves is what it can leave. -/
theorem step_answer (c : GatewayCall) (s : Store) : s.Step c (s.answer c).2 := by
  cases c with
  | create o =>
    rw [answer]
    by_cases h : s.Taken o.name
    · rw [create_of_taken h]
      exact .unchanged _
    · rw [create_of_free h]
      exact .created o h
  | getById id => exact .unchanged _
  | getByName name => exact .unchanged _
  | all => exact .unchanged _
  | delete id =>
    rw [answer]
    rcases s.delete_cases id with ⟨_, hd⟩ | ⟨v, hv, ⟨_, hd⟩ | ⟨hfree, hd⟩⟩ <;> rw [hd]
    · exact .unchanged _
    · exact .unchanged _
    · exact .deleted id v hv hfree
  | attach id server =>
    rw [answer]
    rcases s.attach_cases id server with
      ⟨_, ha⟩ | ⟨v, hv, ⟨_, ha⟩ | ⟨_, _, ha⟩ | ⟨_, _, _, ha⟩ | ⟨hserver, hfree, hroom, ha⟩⟩ <;> rw [ha]
    · exact .unchanged _
    · exact .unchanged _
    · exact .unchanged _
    · exact .unchanged _
    · exact .attached id server v hv hserver hfree hroom
  | detach id server =>
    rw [answer]
    rcases s.detach_cases id server with ⟨_, hd⟩ | ⟨v, hv, ⟨_, hd⟩ | ⟨holder, _, ⟨_, hd⟩ | ⟨_, hd⟩⟩⟩ <;> rw [hd]
    · exact .unchanged _
    · exact .unchanged _
    · exact .unchanged _
    · exact .detached id server v hv
  | resize id sizeGib =>
    rw [answer]
    rcases s.resize_cases id sizeGib with ⟨_, hr⟩ | ⟨v, hv, ⟨_, hr⟩ | ⟨hlt, hr⟩⟩ <;> rw [hr]
    · exact .unchanged _
    · exact .unchanged _
    · exact .resized id sizeGib v hv hlt

/-- The counter of identifiers goes up as long as a word has room for it. -/
theorem toNat_nextId_succ {s : Store} (h : s.nextId.toNat + 1 < UInt64.size) : (s.nextId + 1).toNat = s.nextId.toNat + 1 := by
  rw [UInt64.toNat_add, UInt64.toNat_one]
  exact Nat.mod_eq_of_lt h

/-- A call gives out one identifier at most. -/
theorem Step.nextId_eq {s t : Store} {c : GatewayCall} (h : s.Step c t) : t.nextId = s.nextId ∨ t.nextId = s.nextId + 1 := by
  cases h with
  | created o => exact Or.inr rfl
  | _ => exact Or.inl rfl

/-- A call that fails leaves the store as it was. -/
theorem answer_of_error {c : GatewayCall} {s : Store} {e : VolumeError} (h : (s.answer c).1 = .error e) :
    (s.answer c).2 = s := by
  cases c with
  | create o =>
    rw [answer] at h ⊢
    by_cases htaken : s.Taken o.name
    · rw [create_of_taken htaken]
    · rw [create_of_free htaken] at h
      cases h
  | getById id => rfl
  | getByName name => rfl
  | all => rfl
  | delete id =>
    rw [answer] at h ⊢
    rcases s.delete_cases id with ⟨_, hd⟩ | ⟨v, _, ⟨_, hd⟩ | ⟨_, hd⟩⟩ <;> rw [hd] at h ⊢
    cases h
  | attach id server =>
    rw [answer] at h ⊢
    rcases s.attach_cases id server with
      ⟨_, ha⟩ | ⟨v, _, ⟨_, ha⟩ | ⟨_, _, ha⟩ | ⟨_, _, _, ha⟩ | ⟨_, _, _, ha⟩⟩ <;> rw [ha] at h ⊢
    cases h
  | detach id server =>
    rw [answer] at h ⊢
    rcases s.detach_cases id server with ⟨_, hd⟩ | ⟨v, _, ⟨_, hd⟩ | ⟨holder, _, ⟨_, hd⟩ | ⟨_, hd⟩⟩⟩ <;> rw [hd] at h ⊢
    cases h
  | resize id sizeGib =>
    rw [answer] at h ⊢
    rcases s.resize_cases id sizeGib with ⟨_, hr⟩ | ⟨v, _, ⟨_, hr⟩ | ⟨_, hr⟩⟩ <;> rw [hr] at h ⊢
    cases h

end Store

/-- A call fails and leaves the stored volumes alone, or the store answers it. -/
theorem FaultyStore.answer_cases (c : GatewayCall) (s : FaultyStore) :
    ((∃ e, (answer c s).1 = .error e) ∧ (answer c s).2.store = s.store) ∨
      ((answer c s).1 = (s.store.answer c).1 ∧ (answer c s).2.store = (s.store.answer c).2) := by
  unfold answer
  dsimp only
  split
  · exact Or.inl ⟨⟨_, rfl⟩, rfl⟩
  · exact Or.inr ⟨rfl, rfl⟩

/-- A call leaves what a call of the store can leave, whether it fails or not. -/
theorem FaultyStore.step_answer (c : GatewayCall) (s : FaultyStore) : s.store.Step c (answer c s).2.store := by
  rcases answer_cases c s with ⟨_, hstore⟩ | ⟨_, hstore⟩ <;> rw [hstore]
  · exact .unchanged c
  · exact Store.step_answer c s.store

/-- A call that fails changes no volume. -/
theorem FaultyStore.store_answer_of_error {c : GatewayCall} {s : FaultyStore} {e : VolumeError}
    (h : (answer c s).1 = .error e) : (answer c s).2.store = s.store := by
  rcases answer_cases c s with ⟨_, hstore⟩ | ⟨hreply, hstore⟩
  · exact hstore
  · rw [hstore, Store.answer_of_error (hreply ▸ h)]

/-- A call that succeeds was answered by the store. -/
theorem FaultyStore.answer_of_ok {c : GatewayCall} {s : FaultyStore} {a : c.Answer} (h : (answer c s).1 = .ok a) :
    (s.store.answer c).1 = .ok a ∧ (answer c s).2.store = (s.store.answer c).2 := by
  rcases answer_cases c s with ⟨⟨e, he⟩, _⟩ | ⟨hreply, hstore⟩
  · rw [he] at h
    cases h
  · exact ⟨hreply ▸ h, hstore⟩

end VolumeDriver
