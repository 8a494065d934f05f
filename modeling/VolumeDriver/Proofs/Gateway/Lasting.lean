import VolumeDriver.Proofs.Gateway.Store

/-!
# What lasts of a stored volume

While a volume is stored, its identifier, its name and its location stay as they are and its size does not shrink
(`Volume.Grown`). Only a call to delete a volume takes it out, and nothing else is put under its identifier as long as the
identifiers to come are larger than those in use (`Store.Distinct`). A volume that a server holds stays with that server, under
the same path, until a call detaches or deletes it. Of any call, a deletion too, a volume is kept or is gone for good
(`Store.Keeps.step`).
-/

namespace VolumeDriver

/-- The second volume is the first, at its old size or a larger one; who holds it does not matter. -/
structure Volume.Grown (v w : Volume) : Prop where
  id_eq : w.id = v.id
  name_eq : w.name = v.name
  location_eq : w.location = v.location
  size_le : v.sizeGib ≤ w.sizeGib

namespace Volume.Grown

variable {u v w : Volume}

theorem refl (v : Volume) : v.Grown v := ⟨rfl, rfl, rfl, UInt64.le_refl _⟩

theorem trans (h : u.Grown v) (h' : v.Grown w) : u.Grown w :=
  ⟨h'.id_eq.trans h.id_eq, h'.name_eq.trans h.name_eq, h'.location_eq.trans h.location_eq, UInt64.le_trans h.size_le h'.size_le⟩

end Volume.Grown

namespace Store

/-! ## Identifiers to come -/

/-- The identifiers to come are larger than those in use. -/
def Numbered (s : Store) : Prop := ∀ id v, s.volumes.get? id = some v → id.val < s.nextId

/-- The next identifier, unless it is the last one. -/
theorem nextId_lt {s : Store} (h : s.nextId ≤ s.nextId + 1) : s.nextId < s.nextId + 1 :=
  UInt64.lt_of_le_of_ne h (by simp)

namespace Numbered

variable {s t : Store}

/-- A new volume takes the next identifier, so those to come are larger still. -/
theorem withNew (h : s.Numbered) (o : CreateOptions) (hnext : s.nextId < s.nextId + 1) : (s.withNew o).Numbered := by
  intro id v hv
  rcases SortedMap.of_get?_insert hv with ⟨rfl, rfl⟩ | hold
  · exact hnext
  · exact UInt64.lt_trans (h id v hold) hnext

/-- Forgetting a volume frees no identifier. -/
theorem forget (h : s.Numbered) (id : VolumeId) : (s.forget id).Numbered :=
  fun j v hv => h j v (SortedMap.of_get?_erase hv)

/-- A volume that is put back uses no identifier. -/
theorem put (h : s.Numbered) {id : VolumeId} {v : Volume} (hv : s.volumes.get? id = some v) (w : Volume) :
    (s.put id w).Numbered := by
  intro j u hu
  rcases SortedMap.of_get?_insert hu with ⟨rfl, rfl⟩ | hold
  · exact h j v hv
  · exact h j u hold

/-- Every call leaves larger identifiers to come, unless they have run out. -/
theorem step (h : s.Numbered) {c : GatewayCall} (hstep : s.Step c t) (hnext : s.nextId ≤ t.nextId) : t.Numbered := by
  cases hstep with
  | unchanged => exact h
  | created o => exact h.withNew o (nextId_lt hnext)
  | deleted id => exact h.forget id
  | attached id server v hv => exact h.put hv (held id server v)
  | detached id server v hv => exact h.put hv (released v)
  | resized id sizeGib v hv => exact h.put hv { v with sizeGib := sizeGib }

end Numbered

/-! ## Distinct names -/

/-- No two volumes have one name, and the identifiers to come are larger than those in use. -/
structure Distinct (s : Store) : Prop where
  names_nodup : (s.volumes.values.map (·.name)).Nodup
  id_lt : ∀ id v, s.volumes.get? id = some v → id.val < s.nextId

namespace Distinct

variable {s t : Store} {id : VolumeId} {v w : Volume}

/-- In a store of distinct volumes the identifiers to come are larger than those in use. -/
theorem numbered (h : s.Distinct) : s.Numbered := h.id_lt

/-- A volume is known by its name. -/
theorem eq_of_name (h : s.Distinct) (hv : s.volumes.get? id = some v) (hw : w ∈ s.volumes.values) (hname : w.name = v.name) :
    w = v := by
  have hperm := SortedMap.values_perm_of_get? hv
  have hnodup := (hperm.map (·.name)).nodup_iff.1 h.names_nodup
  rw [List.map_cons, List.nodup_cons] at hnodup
  rcases List.mem_cons.1 (hperm.mem_iff.1 hw) with heq | hother
  · exact heq
  · exact absurd (List.mem_map.2 ⟨w, hother, hname⟩) hnodup.1

/-- A stored volume is found by its name. -/
theorem findName_eq (h : s.Distinct) (hv : s.volumes.get? id = some v) : s.findName v.name = some v := by
  cases hfind : s.findName v.name with
  | none => exact absurd (decide_eq_true rfl) (List.find?_eq_none.1 hfind v (SortedMap.mem_values_iff.2 ⟨id, hv⟩))
  | some w =>
    have hname := List.find?_some hfind
    rw [h.eq_of_name hv (List.mem_of_find?_eq_some hfind) (of_decide_eq_true hname)]

/-- The next identifier is not in use. -/
theorem get?_nextId (h : s.Distinct) : s.volumes.get? ⟨s.nextId⟩ = none := by
  cases hget : s.volumes.get? ⟨s.nextId⟩ with
  | none => rfl
  | some v => exact absurd (h.id_lt _ v hget) (UInt64.lt_irrefl _)

/-- A new volume stands beside those that were there. -/
theorem values_withNew (h : s.Distinct) (o : CreateOptions) :
    (s.withNew o).volumes.values.Perm (s.newVolume o :: s.volumes.values) := by
  have hperm := SortedMap.values_insert_perm s.volumes ⟨s.nextId⟩ (s.newVolume o)
  rwa [SortedMap.erase_of_get?_eq_none h.get?_nextId] at hperm

/-- A new volume of a free name keeps the volumes distinct. -/
theorem withNew (h : s.Distinct) {o : CreateOptions} (hfree : ¬ s.Taken o.name) (hnext : s.nextId < s.nextId + 1) :
    (s.withNew o).Distinct := by
  constructor
  case names_nodup =>
    refine ((h.values_withNew o).map (·.name)).nodup_iff.2 (List.nodup_cons.2 ⟨?_, h.names_nodup⟩)
    intro hmem
    obtain ⟨v, hv, hname⟩ := List.mem_map.1 hmem
    exact hfree ⟨v, hv, hname⟩
  case id_lt => exact h.numbered.withNew o hnext

/-- Volumes stay distinct if one is forgotten. -/
theorem forget (h : s.Distinct) (id : VolumeId) : (s.forget id).Distinct where
  names_nodup := ((List.filter_sublist.map _).map _).nodup h.names_nodup
  id_lt := h.numbered.forget id

/-- Volumes stay distinct if one is put back under its name. -/
theorem put (h : s.Distinct) (hv : s.volumes.get? id = some v) (hname : w.name = v.name) : (s.put id w).Distinct := by
  constructor
  case names_nodup =>
    have hafter : (s.put id w).volumes.values.Perm (w :: (s.volumes.erase id).values) :=
      SortedMap.values_insert_perm s.volumes id w
    refine (hafter.map (·.name)).nodup_iff.2 ?_
    rw [List.map_cons, hname]
    exact ((SortedMap.values_perm_of_get? hv).map (·.name)).nodup_iff.1 h.names_nodup
  case id_lt => exact h.numbered.put hv w

/-- Every call keeps names distinct, unless identifiers have run out. -/
theorem step (h : s.Distinct) {c : GatewayCall} (hstep : s.Step c t) (hnext : s.nextId ≤ t.nextId) : t.Distinct := by
  cases hstep with
  | unchanged => exact h
  | created o hfree => exact h.withNew hfree (nextId_lt hnext)
  | deleted id => exact h.forget id
  | attached id server v hv => exact h.put hv rfl
  | detached id server v hv => exact h.put hv rfl
  | resized id sizeGib v hv => exact h.put hv rfl

end Distinct

/-! ## Volumes that are not deleted -/

section Step

variable {s t : Store} {c : GatewayCall} {id : VolumeId} {v : Volume}

/-- What is put in the place of a volume stands there; other places are as they were. -/
theorem get?_put_cases (hv : s.volumes.get? id = some v) (j : VolumeId) (w : Volume) :
    (id = j ∧ (s.put j w).volumes.get? id = some w) ∨ (id ≠ j ∧ (s.put j w).volumes.get? id = some v) := by
  by_cases hj : id = j
  · exact Or.inl ⟨hj, by rw [hj, get?_put]⟩
  · exact Or.inr ⟨hj, by rw [put, SortedMap.get?_insert, if_neg hj, hv]⟩

/-- A volume under a smaller identifier than the next stays when one is made. -/
theorem get?_withNew (hv : s.volumes.get? id = some v) (hid : id.val < s.nextId) (o : CreateOptions) :
    (s.withNew o).volumes.get? id = some v := by
  have hne : id ≠ ⟨s.nextId⟩ := by
    rintro rfl
    exact UInt64.lt_irrefl _ hid
  rw [withNew, SortedMap.get?_insert, if_neg hne, hv]

/-- Another volume is still stored after one was forgotten. -/
theorem get?_forget_of_ne {j : VolumeId} (hv : s.volumes.get? id = some v) (hj : id ≠ j) :
    (s.forget j).volumes.get? id = some v := by
  rw [forget, SortedMap.get?_erase, if_neg hj, hv]

/-- A volume stays stored unless it is deleted. -/
theorem Step.lasts (h : s.Step c t) (hv : s.volumes.get? id = some v) (hid : id.val < s.nextId) (hc : c ≠ .delete id) :
    ∃ w, t.volumes.get? id = some w ∧ v.Grown w := by
  -- what a call puts in the place of a volume is that volume, grown or not
  have hput {j : VolumeId} {u w : Volume} (hu : s.volumes.get? j = some u) (hw : u.Grown w) :
      ∃ w', (s.put j w).volumes.get? id = some w' ∧ v.Grown w' := by
    rcases get?_put_cases hv j w with ⟨rfl, hget⟩ | ⟨_, hget⟩
    · rw [hv] at hu
      cases hu
      exact ⟨w, hget, hw⟩
    · exact ⟨v, hget, .refl v⟩
  cases h with
  | unchanged => exact ⟨v, hv, .refl v⟩
  | created o => exact ⟨v, get?_withNew hv hid o, .refl v⟩
  | deleted j => exact ⟨v, get?_forget_of_ne hv (by rintro rfl; exact hc rfl), .refl v⟩
  | attached j server u hu => exact hput hu ⟨rfl, rfl, rfl, UInt64.le_refl _⟩
  | detached j server u hu => exact hput hu ⟨rfl, rfl, rfl, UInt64.le_refl _⟩
  | resized j sizeGib u hu hlt => exact hput hu ⟨rfl, rfl, rfl, UInt64.le_of_lt hlt⟩

/-- A volume that a server holds stays with it, under the same path, unless it is detached or deleted. -/
theorem Step.stays_held (h : s.Step c t) (hv : s.volumes.get? id = some v) (hid : id.val < s.nextId)
    (hheld : v.attachedServer ≠ none) (hdelete : c ≠ .delete id) (hdetach : ∀ server, c ≠ .detach id server) :
    ∃ w, t.volumes.get? id = some w ∧ w.attachedServer = v.attachedServer ∧ w.linuxDevice = v.linuxDevice := by
  cases h with
  | unchanged => exact ⟨v, hv, rfl, rfl⟩
  | created o => exact ⟨v, get?_withNew hv hid o, rfl, rfl⟩
  | deleted j => exact ⟨v, get?_forget_of_ne hv (by rintro rfl; exact hdelete rfl), rfl, rfl⟩
  | attached j server u hu _ hfree =>
    rcases get?_put_cases hv j (held j server u) with ⟨rfl, _⟩ | ⟨_, hget⟩
    · rw [hv] at hu
      cases hu
      exact absurd hfree hheld
    · exact ⟨v, hget, rfl, rfl⟩
  | detached j server u hu =>
    rcases get?_put_cases hv j (released u) with ⟨rfl, _⟩ | ⟨_, hget⟩
    · exact absurd rfl (hdetach server)
    · exact ⟨v, hget, rfl, rfl⟩
  | resized j sizeGib u hu =>
    rcases get?_put_cases hv j { u with sizeGib := sizeGib } with ⟨rfl, hget⟩ | ⟨_, hget⟩
    · rw [hv] at hu
      cases hu
      exact ⟨_, hget, rfl, rfl⟩
    · exact ⟨v, hget, rfl, rfl⟩

/-- Nothing comes to be stored under an identifier below the next one. -/
theorem Step.get?_eq_none (h : s.Step c t) (hnone : s.volumes.get? id = none) (hid : id.val < s.nextId) :
    t.volumes.get? id = none := by
  have hput {j : VolumeId} {u w : Volume} (hu : s.volumes.get? j = some u) : (s.put j w).volumes.get? id = none := by
    have hne : id ≠ j := by
      rintro rfl
      rw [hu] at hnone
      cases hnone
    rw [put, SortedMap.get?_insert, if_neg hne, hnone]
  cases h with
  | unchanged => exact hnone
  | created o =>
    have hne : id ≠ ⟨s.nextId⟩ := by
      rintro rfl
      exact UInt64.lt_irrefl _ hid
    rw [withNew, SortedMap.get?_insert, if_neg hne, hnone]
  | deleted j =>
    rw [forget, SortedMap.get?_erase, hnone]
    exact ite_self none
  | attached j server u hu => exact hput hu
  | detached j server u hu => exact hput hu
  | resized j sizeGib u hu => exact hput hu

/-- Only a creation gives out an identifier. -/
theorem Step.nextId_eq_of_ne (h : s.Step c t) (hc : c.op ≠ .create) : t.nextId = s.nextId := by
  cases h with
  | created o => exact absurd rfl hc
  | _ => rfl

end Step

/-! ## Volumes that may be deleted -/

/-- The volume is stored, at its old size or a larger one, or it was deleted. -/
def Keeps (id : VolumeId) (v : Volume) (deleted : Prop) (s : Store) : Prop :=
  (∃ w, s.volumes.get? id = some w ∧ v.Grown w) ∨ (s.volumes.get? id = none ∧ deleted)

/-- A step keeps a volume, or it is the deletion of it. -/
theorem Keeps.step {s t : Store} {c : GatewayCall} {id : VolumeId} {v : Volume} {deleted : Prop} (h : s.Keeps id v deleted)
    (hid : id.val < s.nextId) (hstep : s.Step c t) (hdeleted : c = .delete id → deleted) : t.Keeps id v deleted := by
  rcases h with ⟨w, hw, hgrown⟩ | ⟨hnone, hgone⟩
  · by_cases hc : c = .delete id
    · subst hc
      cases hstep with
      | unchanged => exact Or.inl ⟨w, hw, hgrown⟩
      | deleted => exact Or.inr ⟨get?_forget s id, hdeleted rfl⟩
    · obtain ⟨u, hu, hlarger⟩ := hstep.lasts hw hid hc
      exact Or.inl ⟨u, hu, hgrown.trans hlarger⟩
  · exact Or.inr ⟨hstep.get?_eq_none hnone hid, hgone⟩

end Store

end VolumeDriver
