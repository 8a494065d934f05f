import VolumeDriver.Proofs.Controller.Sizes
import VolumeDriver.Proofs.Gateway.Scope
import VolumeDriver.Proofs.Gateway.Untouched

/-!
# Growing volumes

A volume that is expanded has the size that was asked for, unless it was larger, and nothing else has changed
(`Controller.run_expansion`). So expansions come to the same in any order (`Controller.after_expansions`). No other call makes a volume
smaller either: whatever calls the controller is made to answer, a volume that is stored is stored afterwards, at its size or a larger
one, or one of the calls was to delete it (`Controller.keeps_after`).
-/

namespace VolumeDriver

open Csi Program

/-- The volume, grown to so many GiB at least. -/
def Volume.grownTo (v : Volume) (least : UInt64) : Volume := { v with sizeGib := max v.sizeGib least }

namespace Volume

/-- A volume is grown to the larger of its size and the asked one. -/
theorem sizeGib_grownTo (v : Volume) (least : UInt64) : (v.grownTo least).sizeGib.toNat = max v.sizeGib.toNat least.toNat :=
  UInt64.toNat_max _ _

/-- What a volume grows to is known by how many GiB that is. -/
theorem grownTo_eq_of_toNat {v : Volume} {least size : UInt64} (h : max v.sizeGib.toNat least.toNat = size.toNat) :
    v.grownTo least = { v with sizeGib := size } := by
  have hsize : max v.sizeGib least = size := UInt64.toNat_inj.1 (by rw [UInt64.toNat_max, h])
  rw [grownTo, hsize]

/-- A volume that is large enough is not grown. -/
theorem grownTo_of_le {v : Volume} {least : UInt64} (h : least ≤ v.sizeGib) : v.grownTo least = v :=
  grownTo_eq_of_toNat (max_eq_left (UInt64.le_iff_toNat_le.1 h))

/-- A volume that is too small gets the asked size. -/
theorem grownTo_of_lt {v : Volume} {least : UInt64} (h : v.sizeGib < least) : v.grownTo least = { v with sizeGib := least } :=
  grownTo_eq_of_toNat (max_eq_right (UInt64.le_iff_toNat_le.1 (UInt64.le_of_lt h)))

/-- The order in which a volume is grown twice does not matter. -/
theorem grownTo_comm (v : Volume) (least other : UInt64) : (v.grownTo least).grownTo other = (v.grownTo other).grownTo least := by
  have hsize : max (max v.sizeGib least) other = max (max v.sizeGib other) least := by
    rw [← UInt64.toNat_inj, UInt64.toNat_max, UInt64.toNat_max, UInt64.toNat_max, UInt64.toNat_max, max_right_comm]
  simp only [grownTo, hsize]

end Volume

/-- The message is one to expand the volume of an identifier to so many GiB at least. -/
structure Csi.Message.ControllerExpandVolume.Accepted (m : Message.ControllerExpandVolume) (id : VolumeId) (least : UInt64) :
    Prop where
  wellFormed : m.WellFormed
  named : VolumeId.ofString m.volumeId = .ok id
  bounded : ∃ most, CapacityRange.sizeBounds m.capacityRange = some (least, most)

namespace Controller

/-! ## One expansion -/

/-- What an expansion does to a store that does not fail, and what it answers. -/
theorem perform_expansion {r : Request.ControllerExpandVolume} {id : VolumeId} {least most : UInt64} {s : Store} {v : Volume}
    (hid : VolumeId.ofString r.volumeId = .ok id) (hbounds : CapacityRange.sizeBounds r.capacityRange = some (least, most))
    (hv : s.volumes.get? id = some v) :
    s.perform ((expandVolume r).through Idempotent.layer) =
      (.ok ⟨(v.grownTo least).sizeBytes, true⟩, s.put id (v.grownTo least)) := by
  have hfound : (s.put id (v.grownTo least)).getById id = .ok (v.grownTo least) := Store.getById_of_get? (Store.get?_put s id _)
  simp only [expandVolume, hid, hbounds, Store.perform, bind_eq, ask, call_bind, through, Idempotent.layer, run_call, Store.answer]
  rcases s.resize_cases id least with ⟨hnone, _⟩ | ⟨u, hu, hresize⟩
  · rw [hv] at hnone
    cases hnone
  · rw [hv] at hu
    cases hu
    rcases hresize with ⟨hreached, hr⟩ | ⟨hgrows, hr⟩
    · have hsame : s.put id (v.grownTo least) = s := by
        rw [Volume.grownTo_of_le hreached, Store.put_of_get? hv]
      rw [hsame] at hfound ⊢
      simp only [hr, done_bind, call_bind, through, Idempotent.layer, ask, run_call, hfound, pure_eq, run_done]
    · rw [← Volume.grownTo_of_lt hgrows] at hr
      simp only [hr, done_bind, call_bind, through, Idempotent.layer, ask, run_call, hfound, pure_eq, run_done]

variable {c : Controller} {m : Message.ControllerExpandVolume} {id : VolumeId} {least : UInt64} {s : FaultyStore} {v : Volume}

/-- An expansion that is accepted grows the volume as it asks, and changes nothing else. -/
theorem run_expansion (hm : m.Accepted id least) (hcalm : s.failures = []) (hv : s.store.volumes.get? id = some v) :
    ∃ t, (c.program (.controllerExpandVolume m)).run FaultyStore.answer s =
        (ControllerReply.expanded <$> Expansion.toMessage ⟨(v.grownTo least).sizeBytes, true⟩, t) ∧
      t.store = s.store.put id (v.grownTo least) ∧ t.failures = [] := by
  obtain ⟨most, hbounds⟩ := hm.bounded
  obtain ⟨r, hr⟩ := (Request.ControllerExpandVolume.checks_ofMessage m).ok_iff.2 hm.wellFormed
  obtain ⟨hvolume, hrange⟩ := Request.ControllerExpandVolume.of_ofMessage hr
  have hperform := perform_expansion (hvolume ▸ hm.named) (hrange ▸ hbounds) hv
  obtain ⟨t, hrun, hstore, hcalm'⟩ := FaultyStore.run_of_perform hcalm hperform
  exact ⟨t, run_respond_of_ok hr hrun, hstore, hcalm'⟩

/-- The answer tells of the bytes of the grown volume, which are enough, if a message can hold them. -/
theorem expansion_answers (hm : m.Accepted id least) (hcalm : s.failures = []) (hv : s.store.volumes.get? id = some v)
    (hfits : (max v.sizeGib least).toNat < 2 ^ 33) :
    ∃ bytes t, (c.program (.controllerExpandVolume m)).run FaultyStore.answer s = (.ok (.expanded ⟨bytes, true⟩), t) ∧
      t.store = s.store.put id (v.grownTo least) ∧ bytes.toInt = (max v.sizeGib least).toNat * 2 ^ 30 ∧
      ∀ range, m.capacityRange = some range → range.requiredBytes.toInt ≤ bytes.toInt := by
  obtain ⟨t, hrun, hstore, _⟩ := run_expansion (c := c) hm hcalm hv
  have hbelow : (v.grownTo least).Below (2 ^ 33) := hfits
  obtain ⟨bytes, hbytes, hwire⟩ := hbelow.wireBytes_sizeBytes "capacity_bytes does not fit in an i64"
  refine ⟨bytes, t, ?_, hstore, hwire, fun range hrange => ?_⟩
  · rw [hrun, Expansion.toMessage, hbytes]
    rfl
  · obtain ⟨most, hbounds⟩ := hm.bounded
    have hcovers := (CapacityRange.bounds_of_sizeBounds (hrange ▸ hbounds)).required_le
    rw [toNat_gib] at hcovers
    rw [Volume.sizeGib_grownTo] at hwire
    omega

/-- Expansions come one after the other to what each asks for. -/
theorem after_expansions {asked : List (Message.ControllerExpandVolume × UInt64)} (hasked : ∀ x ∈ asked, x.1.Accepted id x.2)
    (hcalm : s.failures = []) (hv : s.store.volumes.get? id = some v) :
    (c.after (asked.map fun x => .controllerExpandVolume x.1) s).store =
      s.store.put id (asked.foldl (fun v x => v.grownTo x.2) v) := by
  induction asked generalizing s v with
  | nil => exact (Store.put_of_get? hv).symm
  | cons x asked ih =>
    obtain ⟨t, hrun, hstore, hcalm'⟩ := run_expansion (c := c) (hasked x List.mem_cons_self) hcalm hv
    have hgrown : t.store.volumes.get? id = some (v.grownTo x.2) := by
      rw [hstore]
      exact Store.get?_put _ id _
    have hrest := ih (fun y hy => hasked y (List.mem_cons_of_mem _ hy)) hcalm' hgrown
    rw [List.map_cons, after, List.foldl_cons, ← after, hrun, hrest, hstore, Store.put_put, List.foldl_cons]

/-! ## Any calls -/

/-- Only a call to create a volume comes to make one. -/
theorem op_ne_create {call : ControllerCall} {d e : GatewayCall} (hcall : ∀ m, call ≠ .createVolume m) (hasks : c.Asks call d)
    (hbecomes : d.Becomes e) : e.op ≠ .create := by
  cases hbecomes with
  | itself =>
    cases hasks with
    | looks hlooks => exact hlooks.op_ne rfl
    | create => exact absurd rfl (hcall _)
    | delete _ => nofun
    | attach _ _ => nofun
    | detach _ _ => nofun
    | resize _ _ => nofun
  | looks hlooks => exact hlooks.op_ne rfl
  | detaches => nofun

/-- Of the gateway, a call to create a volume leaves what it was, or what one creation leaves of it. -/
theorem step_createVolume (c : Controller) (m : Message.CreateVolume) (s : FaultyStore) :
    ((c.program (.createVolume m)).run FaultyStore.answer s).2.store = s.store ∨
      ∃ o, c.Asks (.createVolume m) (.create o) ∧
        s.store.Step (.create o) ((c.program (.createVolume m)).run FaultyStore.answer s).2.store := by
  rw [program, ControllerService.serve, run_respond]
  cases hr : Request.CreateVolume.ofMessage m with
  | error e => exact Or.inl rfl
  | ok r =>
    dsimp only [service]
    cases ho : c.createOptions r with
    | error e =>
      rw [createVolume_of_error ho]
      exact Or.inl rfl
    | ok o =>
      refine Or.inr ⟨o, .create hr ho, ?_⟩
      have hsettles := Idempotent.settles_create o s
      rw [createVolume, ho]
      dsimp only
      rw [bind_eq, through_ask_bind, run_bind]
      split
      all_goals exact hsettles.step

/-- A call of the controller makes one volume at most. It keeps what every call keeps that comes to be made for it, if there is an
identifier left. -/
theorem program_preserves {P : Store → Prop} {call : ControllerCall}
    (hstep : ∀ d e t u, c.Asks call d → d.Becomes e → t.Step e u → t.nextId ≤ u.nextId → P t → P u)
    (hids : s.store.nextId.toNat + 1 < UInt64.size) (hs : P s.store) :
    P ((c.program call).run FaultyStore.answer s).2.store ∧
      ((c.program call).run FaultyStore.answer s).2.store.nextId.toNat ≤ s.store.nextId.toNat + 1 := by
  have hnext := Store.toNat_nextId_succ hids
  by_cases hcall : ∃ m, call = .createVolume m
  · obtain ⟨m, rfl⟩ := hcall
    rcases step_createVolume c m s with hsame | ⟨o, hasks, hcreated⟩
    · rw [hsame]
      exact ⟨hs, Nat.le_succ _⟩
    · have hlater := hcreated.nextId_eq
      refine ⟨hstep _ _ _ _ hasks (.itself _) hcreated ?_ hs, ?_⟩
      · rcases hlater with heq | heq <;> rw [heq]
        · exact UInt64.le_refl _
        · rw [UInt64.le_iff_toNat_le, hnext]
          exact Nat.le_succ _
      · rcases hlater with heq | heq <;> rw [heq]
        · exact Nat.le_succ _
        · rw [hnext]
  · -- no other call makes a volume
    have hkept : P ((c.program call).run FaultyStore.answer s).2.store ∧
        ((c.program call).run FaultyStore.answer s).2.store.nextId = s.store.nextId := by
      refine run_preserves (P := fun t : FaultyStore => P t.store ∧ t.store.nextId = s.store.nextId) (fun e t he ht => ?_)
        (only_program c call) ⟨hs, rfl⟩
      obtain ⟨d, hasks, hbecomes⟩ := he
      have hanswer := FaultyStore.step_answer e t
      have hsame := hanswer.nextId_eq_of_ne (op_ne_create (fun m hm => hcall ⟨m, hm⟩) hasks hbecomes)
      exact ⟨hstep d e _ _ hasks hbecomes hanswer (UInt64.le_of_eq hsame.symm) ht.1, hsame.trans ht.2⟩
    rw [hkept.2]
    exact ⟨hkept.1, Nat.le_succ _⟩

/-- What every call keeps that comes to be made for calls of the controller, these keep, if they are fewer than the identifiers left. -/
theorem calls_preserve {P : Store → Prop} {calls : List ControllerCall}
    (hstep : ∀ call ∈ calls, ∀ d e t u, c.Asks call d → d.Becomes e → t.Step e u → t.nextId ≤ u.nextId → P t → P u)
    (hids : s.store.nextId.toNat + calls.length < UInt64.size) (hs : P s.store) :
    P (c.after calls s).store ∧ (c.after calls s).store.nextId.toNat ≤ s.store.nextId.toNat + calls.length := by
  induction calls generalizing s with
  | nil => exact ⟨hs, Nat.le_refl _⟩
  | cons call calls ih =>
    rw [List.length_cons] at hids ⊢
    obtain ⟨hfirst, hcount⟩ := program_preserves (hstep call List.mem_cons_self) (by omega) hs
    obtain ⟨hrest, hmore⟩ := ih (fun x hx => hstep x (List.mem_cons_of_mem _ hx)) (by omega) hfirst
    exact ⟨hrest, Nat.le_trans hmore (by omega)⟩

/-- Only a call that names the volume deletes it. -/
theorem named_of_becomes_delete {call : ControllerCall} {d : GatewayCall} (hasks : c.Asks call d)
    (hbecomes : d.Becomes (.delete id)) : ∃ m, call = .deleteVolume m ∧ VolumeId.ofString m.volumeId = .ok id := by
  cases hbecomes with
  | itself =>
    cases hasks with
    | looks hlooks => exact hlooks.elim
    | delete named => exact ⟨_, rfl, named⟩
  | looks hlooks => exact hlooks.elim

/-- A volume that is stored after some calls is stored after any further ones, at its size or a larger one, or one of these was to
delete it. -/
theorem keeps_after {before later : List ControllerCall} (hs : s.store.Numbered)
    (hids : s.store.nextId.toNat + (before ++ later).length < UInt64.size) (hv : (c.after before s).store.volumes.get? id = some v) :
    (c.after (before ++ later) s).store.Keeps id v
      (∃ m, .deleteVolume m ∈ later ∧ VolumeId.ofString m.volumeId = .ok id) := by
  rw [List.length_append] at hids
  have hfirst : (c.after before s).store.Numbered ∧
      (c.after before s).store.nextId.toNat ≤ s.store.nextId.toNat + before.length :=
    calls_preserve (P := Store.Numbered) (fun _ _ _ _ _ _ _ _ hstep hnext ht => ht.step hstep hnext) (by omega) hs
  obtain ⟨hnumbered, hcount⟩ := hfirst
  have hroom : (c.after before s).store.nextId.toNat + later.length < UInt64.size := by omega
  have hlater := calls_preserve (c := c)
    (P := fun t => id.val < t.nextId ∧
      t.Keeps id v (∃ m, .deleteVolume m ∈ later ∧ VolumeId.ofString m.volumeId = .ok id))
    (fun call hcall d e t u hasks hbecomes hstep hnext ht => ?_) hroom ⟨hnumbered id v hv, Or.inl ⟨v, hv, .refl v⟩⟩
  · rw [after, List.foldl_append]
    exact hlater.1.2
  · refine ⟨Std.lt_of_lt_of_le ht.1 hnext, ht.2.step ht.1 hstep fun he => ?_⟩
    subst he
    obtain ⟨m, rfl, hnamed⟩ := named_of_becomes_delete hasks hbecomes
    exact ⟨m, hcall, hnamed⟩

/-! ## What expanding comes to -/

/-- An expansion that is accepted, of a stored volume and without failures, sets its size to the larger of its own and the least one of
the range, and nothing else; it answers with that size in bytes. So over all calls, failing or not, no volume gets smaller until it is
deleted, and the order of expansions does not matter. -/
theorem expansion_grows (c : Controller) (id : VolumeId) :
    (∀ (s : FaultyStore) (v : Volume) (m : Message.ControllerExpandVolume) (least : UInt64), s.failures = [] →
        s.store.volumes.get? id = some v → m.Accepted id least → (max v.sizeGib least).toNat < 2 ^ 33 →
        ∃ bytes t, (c.program (.controllerExpandVolume m)).run FaultyStore.answer s = (.ok (.expanded ⟨bytes, true⟩), t) ∧
          t.store = s.store.put id { v with sizeGib := max v.sizeGib least } ∧
          bytes.toInt = (max v.sizeGib least).toNat * 2 ^ 30 ∧
          ∀ range, m.capacityRange = some range → range.requiredBytes.toInt ≤ bytes.toInt) ∧
      (∀ (s : FaultyStore) (v : Volume) (before later : List ControllerCall), s.store.Numbered →
        s.store.nextId.toNat + (before ++ later).length < UInt64.size → (c.after before s).store.volumes.get? id = some v →
        (c.after (before ++ later) s).store.Keeps id v
          (∃ m, .deleteVolume m ∈ later ∧ VolumeId.ofString m.volumeId = .ok id)) ∧
      ∀ (s : FaultyStore) (v : Volume) (asked other : List (Message.ControllerExpandVolume × UInt64)), s.failures = [] →
        s.store.volumes.get? id = some v → (∀ x ∈ asked, x.1.Accepted id x.2) → asked.Perm other →
        (c.after (asked.map fun x => .controllerExpandVolume x.1) s).store =
          (c.after (other.map fun x => .controllerExpandVolume x.1) s).store := by
  refine ⟨fun s v m least hcalm hv hm => expansion_answers hm hcalm hv, fun s v before later => keeps_after, ?_⟩
  intro s v asked other hcalm hv hasked hperm
  have hsame : asked.foldl (fun v x => v.grownTo x.2) v = other.foldl (fun v x => v.grownTo x.2) v :=
    hperm.foldl_eq' (fun x _ y _ w => w.grownTo_comm x.2 y.2) v
  rw [after_expansions hasked hcalm hv, after_expansions (fun x hx => hasked x (hperm.mem_iff.2 hx)) hcalm hv, hsame]

/-- A message to expand the volume of `holdingVolume`. -/
def expandHeld (requiredBytes : Int64) : Message.ControllerExpandVolume := ⟨"7", some ⟨requiredBytes, 0⟩, .empty, none⟩

/-- An expansion of the held volume is accepted for every range with these bounds. -/
theorem accepted_expandHeld {requiredBytes : Int64} {least : UInt64}
    (h : CapacityRange.sizeBounds (some ⟨requiredBytes, 0⟩) = some (least, 0)) : (expandHeld requiredBytes).Accepted ⟨7⟩ least := by
  have hnamed : VolumeId.ofString "7" = .ok ⟨7⟩ := rfl
  exact ⟨⟨by simp [expandHeld], nofun⟩, hnamed, 0, h⟩

/-- The volume of 15 GiB grows to 19 GiB, whether it is asked for 12 GiB after that or before. -/
theorem expansion_grows_held :
    let c : Controller := ⟨"fsn1", .empty⟩
    let v : Volume := ⟨⟨7⟩, "a", 15, "fsn1", "", none⟩
    let large := expandHeld 20_000_000_000
    let small := expandHeld 12_000_000_000
    (holdingVolume.failures = [] ∧ holdingVolume.store.volumes.get? ⟨7⟩ = some v ∧ holdingVolume.store.Numbered ∧
        large.Accepted ⟨7⟩ 19 ∧ small.Accepted ⟨7⟩ 12) ∧
      (∃ bytes t, (c.program (.controllerExpandVolume large)).run FaultyStore.answer holdingVolume =
          (.ok (.expanded ⟨bytes, true⟩), t) ∧
        t.store = holdingVolume.store.put ⟨7⟩ { v with sizeGib := 19 } ∧ bytes.toInt = 19 * 2 ^ 30) ∧
      (c.after [.controllerExpandVolume large] holdingVolume).store.Keeps ⟨7⟩ v False ∧
      (c.after [.controllerExpandVolume large, .controllerExpandVolume small] holdingVolume).store =
        (c.after [.controllerExpandVolume small, .controllerExpandVolume large] holdingVolume).store := by
  intro c v large small
  have hv : holdingVolume.store.volumes.get? ⟨7⟩ = some v := rfl
  have hnumbered : holdingVolume.store.Numbered := by
    intro id w hw
    rcases SortedMap.of_get?_insert hw with ⟨rfl, _⟩ | hold
    · decide
    · cases hold
  have hlarge : large.Accepted ⟨7⟩ 19 := accepted_expandHeld rfl
  have hsmall : small.Accepted ⟨7⟩ 12 := accepted_expandHeld rfl
  obtain ⟨hanswer, hkeeps, horder⟩ := expansion_grows c ⟨7⟩
  refine ⟨⟨rfl, hv, hnumbered, hlarge, hsmall⟩, ?_, ?_, ?_⟩
  · obtain ⟨bytes, t, hrun, hstore, hbytes, _⟩ := hanswer holdingVolume v large 19 rfl hv hlarge (by decide)
    exact ⟨bytes, t, hrun, hstore, hbytes⟩
  · have hkept := hkeeps holdingVolume v [] [.controllerExpandVolume large] hnumbered (by decide) hv
    exact hkept.imp_right fun hgone => ⟨hgone.1, by simpa using hgone.2⟩
  · refine horder holdingVolume v [(large, 19), (small, 12)] [(small, 12), (large, 19)] rfl hv (fun x hx => ?_) (.swap _ _ _)
    rcases List.mem_cons.1 hx with rfl | hx
    · exact hlarge
    · rw [List.mem_singleton.1 hx]
      exact hsmall

end Controller

end VolumeDriver
