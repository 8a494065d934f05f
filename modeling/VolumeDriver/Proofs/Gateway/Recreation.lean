import VolumeDriver.Proofs.Gateway.Absorption
import VolumeDriver.Proofs.Gateway.Soundness

/-!
# Making a volume again, later

The answer to a creation is a volume that is stored under the name that was asked for (`Idempotent.stored_of_create`). Until it is
deleted the name stays taken by it, whatever else happens to the gateway (`FaultyStore.KeptSince`). So a creation that asks for the
same finds it, at the size that it has by then, and either that size is within the bounds or it is not (`create_later`).
-/

namespace VolumeDriver

open Program

/-- The call that deletes the volume, and its success. -/
def deletion (id : VolumeId) : Exchange gateway := ⟨.delete id, .ok ()⟩

namespace Store

/-- A volume stays stored unless a call deletes it. -/
theorem lasts_answer {s : Store} {id : VolumeId} {v : Volume} (hv : s.volumes.get? id = some v) (hid : id.val < s.nextId)
    {c : GatewayCall} (hc : (⟨c, (s.answer c).1⟩ : Exchange gateway) ≠ deletion id) :
    ∃ w, (s.answer c).2.volumes.get? id = some w ∧ v.Grown w := by
  by_cases hdelete : c = .delete id
  · subst hdelete
    cases hreply : (s.answer (.delete id)).1 with
    | ok _ => exact absurd (congrArg (Sigma.mk (GatewayCall.delete id)) hreply) hc
    | error e => exact ⟨v, by rw [answer_of_error hreply, hv], .refl v⟩
  · exact (step_answer c s).lasts hv hid hdelete

/-- A volume that is found by a name is stored and has the name. -/
theorem mem_values_of_getByName {s : Store} {name : String} {v : Volume} (h : s.getByName name = .ok v) :
    v ∈ s.volumes.values ∧ v.name = name := by
  unfold getByName at h
  split at h
  case h_1 w hfind =>
    cases h
    have hname := List.find?_some hfind
    exact ⟨List.mem_of_find?_eq_some hfind, of_decide_eq_true hname⟩
  case h_2 => cases h

/-- The volume that is found by a name stands under its own identifier. -/
theorem Sound.get?_of_getByName {s : Store} (h : s.Sound) {name : String} {v : Volume} (hv : s.getByName name = .ok v) :
    s.volumes.get? v.id = some v ∧ v.name = name := by
  obtain ⟨hmem, hname⟩ := mem_values_of_getByName hv
  obtain ⟨id, hget⟩ := SortedMap.mem_values_iff.1 hmem
  exact ⟨by rw [h.id_eq id v hget, hget], hname⟩

end Store

namespace FaultyStore

/-- Unless identifiers have run out by the calls, or one of those after the first ones has deleted the volume, it is stored. -/
def KeptSince (limit : Nat) (before : List (Exchange gateway)) (v : Volume) (after : List (Exchange gateway))
    (s : FaultyStore) : Prop :=
  SoundAfter limit (before ++ after) s ∧
    (((before ++ after).filterMap givenOut).length + 1 < UInt64.size → deletion v.id ∉ after →
      ∃ w, s.store.volumes.get? v.id = some w ∧ v.Grown w)

variable {limit : Nat} {before after : List (Exchange gateway)} {v : Volume} {s : FaultyStore}

/-- A call keeps the volume, or it is one that excuses its loss. -/
theorem KeptSince.answer (h : KeptSince limit before v after s) (c : GatewayCall) :
    KeptSince limit before v (after ++ [⟨c, (answer c s).1⟩]) (answer c s).2 := by
  obtain ⟨hsound, hkept⟩ := h
  refine ⟨by rw [← List.append_assoc]; exact hsound.answer c, fun hids hdeleted => ?_⟩
  -- neither did identifiers run out before this call, nor was the volume deleted
  rw [← List.append_assoc, filterMap_givenOut_snoc, List.length_append] at hids
  rw [List.mem_append, not_or, List.mem_singleton] at hdeleted
  obtain ⟨w, hw, hgrown⟩ := hkept (by omega) hdeleted.1
  rcases answer_cases c s with ⟨_, hstore⟩ | ⟨hreply, hstore⟩ <;> rw [hstore]
  · exact ⟨w, hw, hgrown⟩
  · have hlt := (hsound (by omega)).sound.id_lt _ _ hw
    rw [hreply] at hdeleted
    obtain ⟨u, hu, hgrown'⟩ := Store.lasts_answer hw hlt (Ne.symm hdeleted.2)
    exact ⟨u, hu, hgrown.trans hgrown'⟩

/-- Events keep the volume, or one of their calls excuses its loss. -/
theorem KeptSince.history (h : KeptSince limit before v after s) (events : List GatewayEvent) :
    KeptSince limit before v (after ++ (history events s).1) (history events s).2 := by
  refine history_preserves (P := KeptSince limit before v) (fun c _ _ ht => ht.answer c) ?_ (fun _ _ _ _ ht => ht) h events
  intro server xs t ht
  refine ⟨fun hids => (ht.1 hids).addServer server, fun hids hdeleted => ?_⟩
  rcases t.store.addServer_cases server with hs | hs <;> rw [hs]
  · exact ht.2 hids hdeleted
  · exact ht.2 hids hdeleted

end FaultyStore

namespace Idempotent

open FaultyStore

/-- A creation that succeeds has made a volume under a free name, or found one of that name that will do. -/
theorem create_cases {o : CreateOptions} {v : Volume} {s t : FaultyStore} (h : (create o).run answer s = (.ok v, t)) :
    (¬ s.store.Taken o.name ∧ v = s.store.newVolume o ∧ t.store = s.store.withNew o) ∨
      (s.store.getByName o.name = .ok v ∧ o.accepts v = true ∧ t.store = s.store) := by
  rw [create, bind_eq, run_bind] at h
  simp only [ask, run_call, run_done] at h
  split at h
  case h_1 hreply =>
    -- the name is taken
    rw [bind_eq, run_bind] at h
    simp only [run_call, run_done] at h
    have hsame := store_answer_of_error hreply
    split at h
    case h_1 found hfound =>
      obtain ⟨hget, hstore⟩ := answer_of_ok hfound
      rw [hsame] at hget hstore
      split at h
      case isTrue haccepts =>
        cases h
        exact Or.inr ⟨hget, haccepts, hstore⟩
      case isFalse => cases h
    all_goals cases h
  case h_2 hother =>
    obtain ⟨hreply, ht⟩ := Prod.mk.inj h
    obtain ⟨hnew, hstore⟩ := answer_of_ok hreply
    rw [← ht, hstore]
    rw [Store.answer] at hnew ⊢
    by_cases htaken : s.store.Taken o.name
    · rw [Store.create_of_taken htaken] at hnew
      cases hnew
    · rw [Store.create_of_free htaken] at hnew ⊢
      cases hnew
      exact Or.inl ⟨htaken, rfl, rfl⟩

/-- The volume that a creation is answered with is stored, and is as the creation asked. -/
theorem stored_of_create {o : CreateOptions} {v : Volume} {s t : FaultyStore} (hs : s.store.Sound)
    (h : (create o).run answer s = (.ok v, t)) :
    t.store.volumes.get? v.id = some v ∧ v.name = o.name ∧ v.location = o.location ∧ o.minSizeGib ≤ v.sizeGib := by
  rcases create_cases h with ⟨_, rfl, hstore⟩ | ⟨hget, haccepts, hstore⟩ <;> rw [hstore]
  · exact ⟨Store.get?_withNew_self o s.store, rfl, rfl, UInt64.le_refl _⟩
  · obtain ⟨hstored, hname⟩ := hs.get?_of_getByName hget
    obtain ⟨hleast, _, hlocation⟩ := CreateOptions.accepts_iff.1 haccepts
    exact ⟨hstored, hname, hlocation, hleast⟩

/-- A name that is taken is not taken again: the volume that has it is the answer, or it will not do. -/
theorem perform_create_of_named {o : CreateOptions} {v : Volume} {s : Store} (h : s.findName o.name = some v) :
    s.perform (create o) = (if o.accepts v then .ok v else .error .volumeAlreadyExists, s) := by
  have htaken : s.Taken o.name := by
    have hname := List.find?_some h
    exact ⟨v, List.mem_of_find?_eq_some h, of_decide_eq_true hname⟩
  have hget : s.getByName o.name = .ok v := by rw [Store.getByName, h]
  simp only [Store.perform, create, bind_eq, ask, call_bind, run_call, Store.answer, Store.create_of_taken htaken, done_bind,
    hget, pure_eq, run_done]

end Idempotent

namespace FaultyStore

/-- The volume that a creation is answered with is kept since. -/
theorem keptSince_of_create {limit : Nat} {calls : List (Exchange gateway)} {o : CreateOptions} {v : Volume} {s t : FaultyStore}
    (hs : SoundAfter limit calls s) (hids : (calls.filterMap givenOut).length + 1 < UInt64.size)
    (hcreate : (Idempotent.create o).run answer s = (.ok v, t)) :
    KeptSince limit (calls ++ (Idempotent.create o).exchanges answer s) v [] t := by
  have hsound := exchanges_preserve (P := SoundAfter limit) (fun c xs t ht => ht.answer c) (Idempotent.create o) hs
  rw [hcreate] at hsound
  obtain ⟨hstored, _⟩ := Idempotent.stored_of_create (hs hids).sound hcreate
  exact ⟨by rwa [List.append_nil], fun _ _ => ⟨v, hstored, .refl v⟩⟩

/-- A volume that was made as asked will do as long as it has not outgrown its bound. -/
theorem accepts_iff_of_grown {o : CreateOptions} {v w : Volume} (hleast : o.minSizeGib ≤ v.sizeGib)
    (hlocation : v.location = o.location) (h : v.Grown w) :
    o.accepts w = true ↔ o.maxSizeGib = 0 ∨ w.sizeGib ≤ o.maxSizeGib := by
  rw [CreateOptions.accepts_iff]
  exact ⟨fun haccepts => haccepts.2.1,
    fun hmost => ⟨UInt64.le_trans hleast h.size_le, hmost, h.location_eq.trans hlocation⟩⟩

/-- A creation that succeeded is answered alike, whatever happened to the gateway since, as long as its volume was not deleted
and identifiers have not run out: with the volume, at the size that it has now, if that is within the bounds, and otherwise with
the error that it exists. Nothing changes, and labels do not matter. -/
theorem create_later {limit : Nat} {before after : List GatewayEvent} {o : CreateOptions} {v : Volume}
    {calls₁ calls₂ : List (Exchange gateway)} {s₁ s₂ s₃ : FaultyStore}
    (hbefore : history before (empty limit) = (calls₁, s₁))
    (hcreate : (Idempotent.create o).run answer s₁ = (.ok v, s₂))
    (hafter : history after s₂ = (calls₂, s₃))
    (hids : ((calls₁ ++ (Idempotent.create o).exchanges answer s₁ ++ calls₂).filterMap givenOut).length + 1 < UInt64.size)
    (hkept : deletion v.id ∉ calls₂) (hcalm : s₃.failures = []) (labels : StringMap) :
    ∃ w t, s₃.store.volumes.get? v.id = some w ∧ w.id = v.id ∧
      (Idempotent.create { o with labels := labels }).run answer s₃ =
        (if o.maxSizeGib = 0 ∨ w.sizeGib ≤ o.maxSizeGib then .ok w else .error .volumeAlreadyExists, t) ∧
      t.store = s₃.store := by
  -- the first creation is of a sound store, and its volume is kept to the end
  have hempty : SoundAfter limit [] (empty limit) := fun _ => Store.Reached.empty limit
  have hsound : SoundAfter limit calls₁ s₁ := by
    have := hempty.history before
    rwa [hbefore, List.nil_append] at this
  have hids₁ : (calls₁.filterMap givenOut).length + 1 < UInt64.size := by
    simp only [List.filterMap_append, List.length_append] at hids
    omega
  have hend := (keptSince_of_create hsound hids₁ hcreate).history after
  rw [hafter, List.nil_append] at hend
  obtain ⟨w, hw, hgrown⟩ := hend.2 hids hkept
  -- there the name finds it
  obtain ⟨_, hname, hlocation, hleast⟩ := Idempotent.stored_of_create (hsound hids₁).sound hcreate
  have hfind : s₃.store.findName o.name = some w := by
    rw [← hname, ← hgrown.name_eq]
    exact (hend.1 hids).sound.distinct.findName_eq hw
  have hrun := Idempotent.perform_create_of_named (o := { o with labels := labels }) hfind
  obtain ⟨hanswer, hstore⟩ := run_of_calm (Idempotent.create { o with labels := labels }) hcalm
  rw [Store.perform] at hrun
  rw [hrun] at hanswer hstore
  refine ⟨w, _, hw, hgrown.id_eq, Prod.ext ?_ rfl, hstore⟩
  rw [hanswer]
  simp only [accepts_iff_of_grown (o := { o with labels := labels }) hleast hlocation hgrown]

/-- A volume of ten GiB, which may have up to twenty. -/
def modestVolume : CreateOptions := ⟨"b", 10, 20, "fsn1", .empty⟩

/-- What happens before it is made, and the gateway then. -/
def beforeModest : List GatewayEvent := [.addServer ⟨1⟩, .layered (.create ⟨"a", 10, 0, "fsn1", .empty⟩)]

/-- What happens to it afterwards: it is attached and grown, and another volume is deleted. -/
def afterModest : List GatewayEvent :=
  [.layered (.attach ⟨2⟩ ⟨1⟩), .layered (.resize ⟨2⟩ 15), .layered (.delete ⟨1⟩), .call .all]

/-- The gateway once the volume is made, and once everything has happened to it. -/
def modestMade : FaultyStore := ((Idempotent.create modestVolume).run answer (history beforeModest (empty 1)).2).2

def modestGrown : FaultyStore := (history afterModest modestMade).2

/-- A volume is attached and grown, and the request for it made again, with other labels. -/
theorem create_later_modest :
    (Idempotent.create modestVolume).run answer (history beforeModest (empty 1)).2 =
        (.ok ⟨⟨2⟩, "b", 10, "fsn1", "", none⟩, modestMade) ∧
      deletion ⟨2⟩ ∉ (history afterModest modestMade).1 ∧ modestGrown.failures = [] ∧
      ∃ w t, modestGrown.store.volumes.get? ⟨2⟩ = some w ∧ w.id = ⟨2⟩ ∧
        (Idempotent.create { modestVolume with labels := SortedMap.empty.insert "k" "v" }).run answer modestGrown =
          (if modestVolume.maxSizeGib = 0 ∨ w.sizeGib ≤ modestVolume.maxSizeGib then .ok w else .error .volumeAlreadyExists, t) ∧
        t.store = modestGrown.store := by
  have hcreate : (Idempotent.create modestVolume).run answer (history beforeModest (empty 1)).2 =
      (.ok ⟨⟨2⟩, "b", 10, "fsn1", "", none⟩, modestMade) := rfl
  have hkept : deletion ⟨2⟩ ∉ (history afterModest modestMade).1 := by
    intro h
    have hcalls : GatewayCall.delete ⟨2⟩ ∉ (history afterModest modestMade).1.map (·.1) := by decide +kernel
    exact hcalls (List.mem_map_of_mem h)
  exact ⟨hcreate, hkept, rfl, create_later rfl hcreate rfl (by decide +kernel) hkept rfl _⟩

end FaultyStore

end VolumeDriver
