import VolumeDriver.Proofs.Controller.Capacity
import VolumeDriver.Proofs.Gateway.Untouched

/-!
# Rejected calls

A call is rejected when it is answered as invalid, out of range or aborted: for what it asks, and not for what came of it. A
service refuses with such a status only before it has the gateway change anything. What comes after is the message: a size that
a message cannot hold is out of range too, and then the call is rejected although a volume was created or grown
(`rejected_touched_iff`). It takes a call for nearly all the bytes that a message can count (`untouched_of_rejected`).
-/

namespace VolumeDriver

open Csi Program

namespace Csi.ControllerCall

/-- The bytes that a call requires still fit in a message when they are rounded up to whole GiB. -/
def Holdable (call : ControllerCall) : Prop :=
  ∀ asked, call.range = some asked → asked.requiredBytes.toInt ≤ 2 ^ 63 - gib.toNat

/-- Such a call asks for less than 2³³ GiB. -/
theorem Holdable.asksBelow {call : ControllerCall} (h : call.Holdable) :
    CapacityRange.AsksBelow (2 ^ 33) call.range := by
  refine CapacityRange.asksBelow_of_required (n := 2 ^ 33 - 1) (by decide) fun asked hrange => ?_
  have hasked := h asked hrange
  rw [toNat_gib] at hasked ⊢
  omega

end Csi.ControllerCall

namespace Controller

/-! ## The refusals of the services -/

/-- The program refuses for what is asked only while the gateway is untouched: it looks and no more, or does not refuse so. -/
def Heedful {α : Type} (p : Program gateway (Except Refusal α)) : Prop :=
  p.Only GatewayCall.Looks ∨ p.Yields (fun _ _ => True) Unrejecting

/-- A creation is refused for what it asks before the gateway is called. -/
theorem heedful_createVolume (c : Controller) (r : Request.CreateVolume) : Heedful (c.createVolume r) := by
  unfold createVolume
  split
  · exact Or.inl trivial
  · refine Or.inr fun answer _ => ?_
    cases answer with
    | ok v => exact unrejecting_ok _
    | error e => cases e <;> exact unrejecting_error rfl

/-- A deletion is refused for what it asks before the gateway is called. -/
theorem heedful_deleteVolume (r : Request.DeleteVolume) : Heedful (deleteVolume r) := by
  unfold deleteVolume
  split
  · exact Or.inl trivial
  · refine Or.inr fun answer _ => ?_
    cases answer with
    | ok _ => exact unrejecting_ok _
    | error e => cases e <;> first | exact unrejecting_ok _ | exact unrejecting_error rfl

/-- A failure of the gateway is no refusal for what is asked. -/
theorem unrejecting_publishRefusal {α : Type} (e : VolumeError) : Unrejecting (.error (publishRefusal e) : Except Refusal α) := by
  cases e <;> exact unrejecting_error rfl

/-- A publication is refused for what it asks before the gateway is called. -/
theorem heedful_publishVolume (r : Request.ControllerPublishVolume) : Heedful (publishVolume r) := by
  unfold publishVolume
  split
  · exact Or.inl trivial
  split
  · exact Or.inl trivial
  split
  · exact Or.inl trivial
  · exact Or.inl trivial
  · refine Or.inr fun answer _ => ?_
    cases answer with
    | error e => exact unrejecting_publishRefusal e
    | ok _ =>
      intro found _
      cases found with
      | error e => exact unrejecting_publishRefusal e
      | ok v => exact unrejecting_ok _

/-- A withdrawal is refused for what it asks before the gateway is called. -/
theorem heedful_unpublishVolume (r : Request.ControllerUnpublishVolume) : Heedful (unpublishVolume r) := by
  unfold unpublishVolume
  split
  · exact Or.inl trivial
  · exact Or.inl trivial
  · refine Or.inr fun answer _ => ?_
    cases answer with
    | ok _ => exact unrejecting_ok _
    | error e => cases e <;> first | exact unrejecting_ok _ | exact unrejecting_error rfl

/-- An expansion is refused for what it asks before the gateway is called. -/
theorem heedful_expandVolume (r : Request.ControllerExpandVolume) : Heedful (expandVolume r) := by
  unfold expandVolume
  split
  · exact Or.inl trivial
  · exact Or.inl trivial
  · refine Or.inr (Yields.bind (P := fun _ => True) (fun _ _ => trivial) fun answer _ => ?_)
    split
    case h_3 => exact unrejecting_error rfl
    case h_4 => exact unrejecting_error rfl
    -- grown, or large enough before
    all_goals
      intro found _
      cases found with
      | ok v => exact unrejecting_ok _
      | error e => cases e <;> exact unrejecting_error rfl

/-! ## Rejected calls and the gateway -/

/-- A call that is rejected although the gateway was not left untouched is one that the service did; what is rejected is the
message that was to tell of it. -/
theorem done_of_rejected_touched {ρ α β : Type} {request : Except Status ρ} {service : ρ → Program gateway (Except Refusal α)}
    {reply : α → Except Status β} {s : FaultyStore} (hservice : ∀ r, Heedful (service r))
    (hrejected : Rejected
      (((respond Refusal.status request service reply).through Idempotent.layer).run FaultyStore.answer s).1)
    (htouched : ¬ s.Untouched
      (((respond Refusal.status request service reply).through Idempotent.layer).run FaultyStore.answer s).2) :
    ∃ r a, request = .ok r ∧ (((service r).through Idempotent.layer).run FaultyStore.answer s).1 = .ok a ∧
      Rejected (reply a) := by
  rw [run_respond] at hrejected htouched
  cases request with
  | error e => exact absurd (.refl s) htouched
  | ok r =>
    dsimp only at hrejected htouched
    rcases hservice r with hlooks | hrefusals
    · exact absurd (FaultyStore.untouched_of_looks (hlooks.through fun _ hc => looks_layer hc) s) htouched
    · have hunrejecting : Unrejecting (((service r).through Idempotent.layer).run FaultyStore.answer s).1 :=
        hrefusals.run_through s
      cases hanswer : (((service r).through Idempotent.layer).run FaultyStore.answer s).1 with
      | ok a =>
        rw [hanswer] at hrejected
        exact ⟨r, a, rfl, hanswer, hrejected⟩
      | error e =>
        rw [hanswer] at hrejected
        obtain ⟨_, ⟨⟩, he⟩ := hrejected
        rw [hunrejecting e hanswer] at he
        nomatch he

/-- The size in bytes that the service reports of the volume that a call had created or grown. -/
inductive Reports (c : Controller) (s : FaultyStore) : ControllerCall → UInt64 → Prop
  | created {message : Message.CreateVolume} {r : Request.CreateVolume} {info : VolumeInfo}
      (checked : Request.CreateVolume.ofMessage message = .ok r)
      (answered : ((c.perform (.createVolume r)).run FaultyStore.answer s).1 = .ok info) :
      Reports c s (.createVolume message) info.capacityBytes
  | grown {message : Message.ControllerExpandVolume} {r : Request.ControllerExpandVolume} {expansion : Expansion}
      (checked : Request.ControllerExpandVolume.ofMessage message = .ok r)
      (answered : ((c.perform (.expandVolume r)).run FaultyStore.answer s).1 = .ok expansion) :
      Reports c s (.controllerExpandVolume message) expansion.capacityBytes

/-- A volume is not answered without the gateway. -/
theorem touched_of_created {c : Controller} {r : Request.CreateVolume} {s : FaultyStore} {info : VolumeInfo}
    (h : ((c.perform (.createVolume r)).run FaultyStore.answer s).1 = .ok info) :
    ¬ s.Untouched ((c.perform (.createVolume r)).run FaultyStore.answer s).2 := by
  rw [perform_createVolume] at h ⊢
  cases hoptions : c.createOptions r with
  | error e =>
    rw [createVolume_of_error hoptions] at h
    nomatch h
  | ok o =>
    rw [createVolume, hoptions]
    exact Idempotent.touched_of_ask rfl _ s

/-- A size is not answered without the gateway. -/
theorem touched_of_grown {c : Controller} {r : Request.ControllerExpandVolume} {s : FaultyStore} {expansion : Expansion}
    (h : ((c.perform (.expandVolume r)).run FaultyStore.answer s).1 = .ok expansion) :
    ¬ s.Untouched ((c.perform (.expandVolume r)).run FaultyStore.answer s).2 := by
  rw [perform_expandVolume] at h ⊢
  unfold expandVolume at h ⊢
  split at h
  · nomatch h
  · nomatch h
  · exact Idempotent.touched_of_ask rfl _ s

/-- A call that is turned down after the gateway was touched had a volume reported with more bytes than a message holds. -/
theorem reported_of_rejected_touched {c : Controller} {call : ControllerCall} {s : FaultyStore}
    (hrejected : Rejected ((c.program call).run FaultyStore.answer s).1)
    (htouched : ¬ s.Untouched ((c.program call).run FaultyStore.answer s).2) :
    ∃ size, c.Reports s call size ∧ 2 ^ 63 ≤ size.toNat := by
  have hlooks {q : Program gateway (Except Status ControllerReply)} (hq : q.Only GatewayCall.Looks)
      (h : ¬ s.Untouched ((q.through Idempotent.layer).run FaultyStore.answer s).2) : False :=
    h (FaultyStore.untouched_of_looks (hq.through fun _ hc => looks_layer hc) s)
  cases call with
  | createVolume message =>
    obtain ⟨r, info, hr, hinfo, hreply⟩ := done_of_rejected_touched (heedful_createVolume c) hrejected htouched
    exact ⟨_, .created hr hinfo, rejected_volume_iff.1 hreply⟩
  | deleteVolume message =>
    obtain ⟨_, _, _, _, hreply⟩ := done_of_rejected_touched heedful_deleteVolume hrejected htouched
    exact (not_rejected_ok _ hreply).elim
  | controllerPublishVolume message =>
    obtain ⟨_, _, _, _, hreply⟩ := done_of_rejected_touched heedful_publishVolume hrejected htouched
    exact (not_rejected_ok _ hreply).elim
  | controllerUnpublishVolume message =>
    obtain ⟨_, _, _, _, hreply⟩ := done_of_rejected_touched heedful_unpublishVolume hrejected htouched
    exact (not_rejected_ok _ hreply).elim
  | validateVolumeCapabilities message => exact (hlooks (only_respond fun r _ => looks_validateCapabilities r) htouched).elim
  | listVolumes message => exact (hlooks (only_respond fun r _ => looks_listVolumes r) htouched).elim
  | controllerExpandVolume message =>
    obtain ⟨r, expansion, hr, hexpansion, hreply⟩ := done_of_rejected_touched heedful_expandVolume hrejected htouched
    exact ⟨_, .grown hr hexpansion, rejected_expansion_iff.1 hreply⟩
  -- what no service offers, and the features of this one
  | _ => exact absurd (.refl s) htouched

/-- A call whose volume is reported with more bytes than a message holds is turned down, after the gateway was touched. -/
theorem rejected_touched_of_reported {c : Controller} {call : ControllerCall} {s : FaultyStore} {size : UInt64}
    (h : c.Reports s call size) (hsize : 2 ^ 63 ≤ size.toNat) :
    Rejected ((c.program call).run FaultyStore.answer s).1 ∧ ¬ s.Untouched ((c.program call).run FaultyStore.answer s).2 := by
  cases h with
  | created checked answered =>
    have htouched := touched_of_created answered
    rw [perform_createVolume] at answered htouched
    rw [program, ControllerService.serve, run_respond, checked]
    dsimp only [service]
    rw [answered]
    exact ⟨rejected_volume_iff.2 hsize, htouched⟩
  | grown checked answered =>
    have htouched := touched_of_grown answered
    rw [perform_expandVolume] at answered htouched
    rw [program, ControllerService.serve, run_respond, checked]
    dsimp only [service]
    rw [answered]
    exact ⟨rejected_expansion_iff.2 hsize, htouched⟩

/-- A call is rejected with an effect exactly if it had a volume created or grown that is reported with more bytes than a
message can hold. Any other call that is rejected leaves the gateway untouched. -/
theorem rejected_touched_iff (c : Controller) (call : ControllerCall) (s : FaultyStore) :
    (Rejected ((c.program call).run FaultyStore.answer s).1 ∧
        ¬ s.Untouched ((c.program call).run FaultyStore.answer s).2) ↔
      ∃ size, c.Reports s call size ∧ 2 ^ 63 ≤ size.toNat := by
  constructor
  · rintro ⟨hrejected, htouched⟩
    exact reported_of_rejected_touched hrejected htouched
  · rintro ⟨size, hreports, hsize⟩
    exact rejected_touched_of_reported hreports hsize

/-- A call for a volume of as many bytes as a message can hold. -/
def largestCreation : ControllerCall :=
  .createVolume ⟨"a", some ⟨0x7FFFFFFFFFFFFFFF, 0⟩, [⟨some 1, some .block⟩], .empty, .empty, none, none⟩

/-- The largest creation is rejected, and the volume is there. -/
theorem largest_creation_rejected :
    ((program ⟨"fsn1", .empty⟩ largestCreation).run FaultyStore.answer ({} : FaultyStore)).1 =
        .error (.outOfRange "Volume.capacity_bytes overflows int64") ∧
      ((program ⟨"fsn1", .empty⟩ largestCreation).run FaultyStore.answer ({} : FaultyStore)).2.calls = [.create] ∧
      ((program ⟨"fsn1", .empty⟩ largestCreation).run FaultyStore.answer ({} : FaultyStore)).2.store.volumes.values =
        [⟨⟨1⟩, "a", 2 ^ 33, "fsn1", "", none⟩] :=
  ⟨rfl, rfl, rfl⟩

/-! ## Sizes that a message can hold -/

/-- Of volumes that are small enough, no size is reported that a message cannot hold. -/
theorem reports_lt {c : Controller} {call : ControllerCall} {s : FaultyStore} {size : UInt64} (hs : s.store.Below (2 ^ 33))
    (hcall : call.Holdable) (h : c.Reports s call size) : size.toNat < 2 ^ 63 := by
  cases h with
  | created checked answered =>
    obtain ⟨_, v, _, hinfo, _, hv⟩ := created_below hs ((Request.CreateVolume.of_ofMessage checked).2 ▸ hcall.asksBelow) answered
    rw [hinfo]
    exact hv.sizeBytes_lt
  | grown checked answered =>
    obtain ⟨v, hexpansion, hv⟩ := grown_below hs ((Request.ControllerExpandVolume.of_ofMessage checked).2 ▸ hcall.asksBelow) answered
    rw [hexpansion]
    exact hv.sizeBytes_lt

/-- As long as no call requires more bytes than a message can hold of whole GiB, a call that is rejected leaves the gateway
untouched, after whatever calls. -/
theorem untouched_of_rejected (c : Controller) {calls : List ControllerCall} {call : ControllerCall}
    (h : ∀ x ∈ call :: calls, x.Holdable) {s : FaultyStore} (hs : s.store.Below (2 ^ 33))
    (hrejected : Rejected ((c.program call).run FaultyStore.answer (c.after calls s)).1) :
    (c.after calls s).Untouched ((c.program call).run FaultyStore.answer (c.after calls s)).2 := by
  by_contra htouched
  obtain ⟨size, hreports, hsize⟩ := reported_of_rejected_touched hrejected htouched
  have hbelow : (c.after calls s).store.Below (2 ^ 33) :=
    below_after c (fun x hx => (h x (List.mem_cons_of_mem _ hx)).asksBelow) hs
  have hlt : size.toNat < 2 ^ 63 := reports_lt hbelow (h call List.mem_cons_self) hreports
  omega

end Controller

end VolumeDriver
