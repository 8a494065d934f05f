import VolumeDriver.Proofs.Controller.Capacity
import VolumeDriver.Proofs.Decimal

/-!
# Listing volumes

A list of all volumes has an entry for each volume, in the order of their identifiers, and an entry tells of its volume what can be
read back from it (`Controller.Tells`). A message has no room for the bytes of a volume of 2³³ GiB: one such volume fails the whole
list (`Controller.listing_faithful`).
-/

namespace VolumeDriver

open Csi Program

namespace Controller

/-- The entry tells of the volume: its identifier and that of the server that holds it, which are read back from their decimal forms,
its size in bytes, and its location. -/
structure Tells (e : Message.ListedVolume) (v : Volume) : Prop where
  volumeId : VolumeId.ofString e.volume.volumeId = .ok v.id
  capacityBytes : e.volume.capacityBytes.toInt = v.sizeGib.toNat * 2 ^ 30
  topology : e.volume.accessibleTopology.map SortedMap.toList = [[(Plugin.locationKey, v.location)]]
  detached : v.attachedServer = none → e.publishedNodeIds = []
  attached : ∀ server, v.attachedServer = some server → ∃ node, e.publishedNodeIds = [node] ∧ ServerId.ofString node = .ok server

/-! ## Entries -/

/-- What is answered instead of a list. -/
def listTooLarge : Status := .outOfRange "Volume.capacity_bytes overflows int64"

/-- A volume whose bytes a message can hold has an entry. -/
theorem toMessage_listEntry {v : Volume} (h : v.Below (2 ^ 33)) : ∃ e, (listEntry v).toMessage = .ok e ∧ Tells e v := by
  obtain ⟨bytes, hbytes, hcount⟩ := h.wireBytes_sizeBytes "Volume.capacity_bytes overflows int64"
  refine ⟨⟨⟨bytes, toString v.id, .empty, false, [topology v.location]⟩, (v.attachedServer.map toString).toList⟩, ?_, ?_⟩
  · simp only [ListedVolume.toMessage, VolumeInfo.toMessage, listEntry, describe, hbytes]
    rfl
  constructor
  case volumeId => exact VolumeId.ofString_toString v.id
  case capacityBytes => exact hcount
  case topology => rfl
  case detached =>
    intro hfree
    simp [hfree]
  case attached =>
    intro server hheld
    exact ⟨toString server, by simp [hheld], ServerId.ofString_toString server⟩

/-- A larger volume has none, as long as its bytes can be counted. -/
theorem toMessage_listEntry_of_large {v : Volume} (h : v.Below (2 ^ 34)) (hlarge : 2 ^ 33 ≤ v.sizeGib.toNat) :
    (listEntry v).toMessage = .error listTooLarge := by
  have hsize : v.sizeBytes.toNat = v.sizeGib.toNat * 2 ^ 30 := h.toNat_sizeBytes
  have hbytes := wireBytes_of_le (n := v.sizeBytes) (by omega) "Volume.capacity_bytes overflows int64"
  simp only [ListedVolume.toMessage, VolumeInfo.toMessage, listEntry, describe, hbytes]
  rfl

/-! ## Lists -/

/-- Entries are made of volumes one by one, so none is lost and their order is kept. -/
theorem toMessage_list {vs : List Volume} (h : ∀ v ∈ vs, v.Below (2 ^ 33)) :
    ∃ es, VolumeList.toMessage ⟨vs.map listEntry, none⟩ = .ok ⟨es, ""⟩ ∧ List.Forall₂ Tells es vs := by
  have hentries : ∃ es, (vs.map listEntry).mapM ListedVolume.toMessage = .ok es ∧ List.Forall₂ Tells es vs := by
    induction vs with
    | nil => exact ⟨[], rfl, .nil⟩
    | cons v vs ih =>
      obtain ⟨e, he, htells⟩ := toMessage_listEntry (h v List.mem_cons_self)
      obtain ⟨es, hes, hall⟩ := ih fun w hw => h w (List.mem_cons_of_mem v hw)
      refine ⟨e :: es, ?_, .cons htells hall⟩
      rw [List.map_cons, List.mapM_cons, he, hes]
      rfl
  obtain ⟨es, hes, hall⟩ := hentries
  exact ⟨es, by rw [VolumeList.toMessage, hes]; rfl, hall⟩

/-- One volume without an entry fails the whole list. -/
theorem toMessage_list_of_large {vs : List Volume} (h : ∀ v ∈ vs, v.Below (2 ^ 34)) (hlarge : ∃ v ∈ vs, 2 ^ 33 ≤ v.sizeGib.toNat) :
    VolumeList.toMessage ⟨vs.map listEntry, none⟩ = .error listTooLarge := by
  have hentries : (vs.map listEntry).mapM ListedVolume.toMessage = .error listTooLarge := by
    induction vs with
    | nil =>
      obtain ⟨v, hv, _⟩ := hlarge
      cases hv
    | cons v vs ih =>
      rw [List.map_cons, List.mapM_cons]
      by_cases hv : 2 ^ 33 ≤ v.sizeGib.toNat
      · rw [toMessage_listEntry_of_large (h v List.mem_cons_self) hv]
        rfl
      · -- the large volume is among the others
        have hrest : ∃ w ∈ vs, 2 ^ 33 ≤ w.sizeGib.toNat := by
          obtain ⟨w, hw, hsize⟩ := hlarge
          rcases List.mem_cons.1 hw with rfl | hw
          · exact absurd hsize hv
          · exact ⟨w, hw, hsize⟩
        obtain ⟨e, he, _⟩ := toMessage_listEntry (Nat.lt_of_not_le hv)
        rw [he, ih (fun w hw => h w (List.mem_cons_of_mem v hw)) hrest]
        rfl
  rw [VolumeList.toMessage, hentries]
  rfl

/-! ## The call -/

/-- A list is what the gateway says it has, and the gateway stays as it is. -/
theorem run_listing {c : Controller} {m : Message.ListVolumes} (hm : m.WellFormed) (hstart : m.startingToken = "") {s : FaultyStore}
    (hcalm : s.failures = []) :
    ∃ t, (c.program (.listVolumes m)).run FaultyStore.answer s =
        (ControllerReply.listed <$> VolumeList.toMessage ⟨s.store.volumes.values.map listEntry, none⟩, t) ∧
      t.store = s.store := by
  obtain ⟨r, hr⟩ := (Request.ListVolumes.checks_ofMessage m).ok_iff.2 hm
  have htoken : r.startingToken = none := by
    have hconveys := ((Request.ListVolumes.checks_ofMessage m).post_of_ok hr).startingToken
    rwa [hstart] at hconveys
  have hperform : s.store.perform ((listVolumes r).through Idempotent.layer) =
      (.ok ⟨s.store.volumes.values.map listEntry, none⟩, s.store) := by
    rw [listVolumes, htoken]
    rfl
  obtain ⟨t, hrun, hstore, _⟩ := FaultyStore.run_of_perform hcalm hperform
  exact ⟨t, run_respond_of_ok hr hrun, hstore⟩

end Controller

/-- Volumes that are stored under their own identifiers are listed in their order. -/
theorem Store.values_ascending {s : Store} (h : ∀ id v, s.volumes.get? id = some v → v.id = id) :
    (s.volumes.values.map (·.id)).Pairwise (· < ·) := by
  have hkeys : s.volumes.values.map (·.id) = s.volumes.entries.map Prod.fst := by
    rw [SortedMap.values, List.map_map]
    exact List.map_congr_left fun e he => h e.1 e.2 (SortedMap.find_of_mem s.volumes.ascending he)
  rw [hkeys]
  exact s.volumes.ascending.map Prod.fst fun _ _ hlt => hlt

namespace Controller

/-- Without failures, and if volumes are stored under their own identifiers, a list has one entry for each of them, in the order of
these, that tells of it; or, if the bytes of one do not fit, there is none. The gateway stays as it is. -/
theorem listing_faithful (c : Controller) {m : Message.ListVolumes} {s : FaultyStore} (hcalm : s.failures = [])
    (hids : ∀ id v, s.store.volumes.get? id = some v → v.id = id) (hentries : 0 ≤ m.maxEntries.toInt) (hstart : m.startingToken = "") :
    (s.store.Below (2 ^ 33) →
        ∃ (list : Message.VolumeList) (vs : List Volume) (t : FaultyStore),
          (c.program (.listVolumes m)).run FaultyStore.answer s = (.ok (.listed list), t) ∧ t.store = s.store ∧
          List.Forall₂ Tells list.entries vs ∧ (vs.map (·.id)).Pairwise (· < ·) ∧
          (∀ v, v ∈ vs ↔ s.store.volumes.get? v.id = some v) ∧ list.nextToken = "") ∧
      (s.store.Below (2 ^ 34) → (∃ v ∈ s.store.volumes.values, 2 ^ 33 ≤ v.sizeGib.toNat) →
        ∃ (e : Status) (t : FaultyStore), (c.program (.listVolumes m)).run FaultyStore.answer s = (.error e, t) ∧
          e.code = .outOfRange ∧ t.store = s.store) := by
  obtain ⟨t, hrun, hstore⟩ := run_listing (c := c) (Int32.le_iff_toInt_le.2 hentries) hstart hcalm
  constructor
  · intro hsizes
    obtain ⟨es, hes, htells⟩ := toMessage_list hsizes
    refine ⟨⟨es, ""⟩, s.store.volumes.values, t, by rw [hrun, hes]; rfl, hstore, htells, Store.values_ascending hids, ?_, rfl⟩
    intro v
    constructor
    · intro hv
      obtain ⟨id, hget⟩ := SortedMap.mem_values_iff.1 hv
      rwa [hids id v hget]
    · exact fun hget => SortedMap.mem_values_iff.2 ⟨v.id, hget⟩
  · intro hsizes hlarge
    have hfails := toMessage_list_of_large hsizes hlarge
    exact ⟨listTooLarge, t, by rw [hrun, hfails]; rfl, rfl, hstore⟩

/-- A gateway with a volume that a server holds, and another one of so many GiB. -/
def holdingTwo (sizeGib : UInt64) : FaultyStore :=
  { store := (holdingVolume.store.put ⟨7⟩ (Store.held ⟨7⟩ ⟨5⟩ ⟨⟨7⟩, "a", 15, "fsn1", "", none⟩)).insert
      ⟨⟨3⟩, "b", sizeGib, "nbg1", "", none⟩ }

/-- Both volumes are stored under their own identifiers. -/
theorem id_holdingTwo (sizeGib : UInt64) (id : VolumeId) (v : Volume)
    (h : (holdingTwo sizeGib).store.volumes.get? id = some v) : v.id = id := by
  rcases SortedMap.of_get?_insert h with ⟨rfl, rfl⟩ | h
  · rfl
  rcases SortedMap.of_get?_insert h with ⟨rfl, rfl⟩ | h
  · rfl
  rcases SortedMap.of_get?_insert h with ⟨rfl, rfl⟩ | h
  · rfl
  · cases h

/-- If the other volume has 10 GiB, both are listed, the other one first. If it has 2³³ GiB, none is. -/
theorem listing_faithful_holdingTwo :
    let c : Controller := ⟨"fsn1", .empty⟩
    let m : Message.ListVolumes := { maxEntries := 1 }
    let run (sizeGib : UInt64) := (c.program (.listVolumes m)).run FaultyStore.answer (holdingTwo sizeGib)
    (0 ≤ m.maxEntries.toInt ∧ m.startingToken = "" ∧ (holdingTwo 10).store.Below (2 ^ 33) ∧
        (holdingTwo (2 ^ 33)).store.Below (2 ^ 34) ∧ (holdingTwo 10).store.volumes.values.map (·.id) = [⟨3⟩, ⟨7⟩]) ∧
      (∃ (list : Message.VolumeList) (vs : List Volume) (t : FaultyStore), run 10 = (.ok (.listed list), t) ∧
        List.Forall₂ Tells list.entries vs ∧ (vs.map (·.id)).Pairwise (· < ·) ∧
        ∀ v, v ∈ vs ↔ (holdingTwo 10).store.volumes.get? v.id = some v) ∧
      ∃ (e : Status) (t : FaultyStore), run (2 ^ 33) = (.error e, t) ∧ e.code = .outOfRange := by
  intro c m run
  have hentries : 0 ≤ m.maxEntries.toInt := by decide
  have hsmall : ∀ v ∈ (holdingTwo 10).store.volumes.values, v.sizeGib.toNat < 2 ^ 33 := by decide +kernel
  have hword : ∀ v ∈ (holdingTwo (2 ^ 33)).store.volumes.values, v.sizeGib.toNat < 2 ^ 34 := by decide +kernel
  have hlarge : ∃ v ∈ (holdingTwo (2 ^ 33)).store.volumes.values, 2 ^ 33 ≤ v.sizeGib.toNat := by decide +kernel
  obtain ⟨list, vs, t, hrun, _, htells, hascending, hmem, _⟩ :=
    (listing_faithful c (m := m) (s := holdingTwo 10) rfl (id_holdingTwo 10) hentries rfl).1 hsmall
  obtain ⟨e, u, hfailed, hcode, _⟩ :=
    (listing_faithful c (m := m) (s := holdingTwo (2 ^ 33)) rfl (id_holdingTwo (2 ^ 33)) hentries rfl).2 hword hlarge
  exact ⟨⟨hentries, rfl, hsmall, hword, rfl⟩, ⟨list, vs, t, hrun, htells, hascending, hmem⟩, e, u, hfailed, hcode⟩

end Controller

end VolumeDriver
