import VolumeDriver.Proofs.Controller.Calls
import VolumeDriver.Proofs.Gateway.Sizes

/-!
# Sizes that the controller asks for and tells of

What the gateway is asked for a call is no larger than the call asks for, so volumes stay below every size that no call asks
for (`below_after`). A creation is answered with a new volume or with one that is there already. Either has the size in GiB that
was asked for, so the bytes that are told of keep to the range of the request, but for one case: a limit below one GiB has
become a maximum of zero GiB, which is no bound (`capacity_within_range`).
-/

namespace VolumeDriver

open Csi Program

/-! ## Sizes in bytes -/

namespace Volume

/-- The bytes of a volume can be counted in a word exactly if its size in GiB leaves room for the thirty bits of one. -/
theorem below_iff {v : Volume} : v.Below (2 ^ 34) ↔ v.sizeGib.toNat * gib.toNat < UInt64.size := by
  have hsize : UInt64.size = 2 ^ 64 := rfl
  rw [Below, toNat_gib, hsize]
  omega

/-- The bytes of a volume that is not too large, without a bound. -/
theorem Below.toNat_sizeBytes {v : Volume} (h : v.Below (2 ^ 34)) : v.sizeBytes.toNat = v.sizeGib.toNat * gib.toNat := by
  rw [sizeBytes, UInt64.toNat_mul]
  exact Nat.mod_eq_of_lt (below_iff.1 h)

/-- The bytes of a volume below 2³³ GiB are below the sign of a word. -/
theorem Below.sizeBytes_lt {v : Volume} (h : v.Below (2 ^ 33)) : v.sizeBytes.toNat < 2 ^ 63 := by
  have hword : v.Below (2 ^ 34) := Nat.lt_trans h (by decide)
  rw [hword.toNat_sizeBytes, toNat_gib]
  rw [Below] at h
  omega

/-- So a message holds them as they are. -/
theorem Below.wireBytes_sizeBytes {v : Volume} (h : v.Below (2 ^ 33)) (problem : String) :
    ∃ bytes, wireBytes v.sizeBytes problem = .ok bytes ∧ bytes.toInt = v.sizeGib.toNat * 2 ^ 30 := by
  have hword : v.Below (2 ^ 34) := Nat.lt_trans h (by decide)
  obtain ⟨bytes, hbytes, hcount⟩ := wireBytes_of_lt h.sizeBytes_lt problem
  refine ⟨bytes, hbytes, ?_⟩
  rw [hcount, hword.toNat_sizeBytes, toNat_gib]
  push_cast
  rfl

end Volume

/-! ## What calls ask for -/

namespace Csi

/-- The range of bytes that a call asks for a volume of. -/
def ControllerCall.range : ControllerCall → Option CapacityRange
  | .createVolume message => message.capacityRange
  | .controllerExpandVolume message => message.capacityRange
  | _ => none

end Csi

namespace Controller

variable {bound : Nat} {c : Controller} {r : Request.CreateVolume} {o : CreateOptions}

/-! ## What the gateway is asked for -/

/-- A range that asks for less than a bound has only volumes below it created. -/
theorem only_createVolume_below (c : Controller) (r : Request.CreateVolume)
    (h : CapacityRange.AsksBelow bound r.capacityRange) : (c.createVolume r).Only (GatewayCall.Below bound) := by
  refine (only_createVolume c r).mono ?_
  rintro d ⟨o, ho, rfl⟩
  exact ⟨createOptions_consistent ho, h _ _ (sizeBounds_of_createOptions ho)⟩

/-- A range that asks for less than a bound has volumes resized to sizes below it only. -/
theorem only_expandVolume_below (r : Request.ControllerExpandVolume)
    (h : CapacityRange.AsksBelow bound r.capacityRange) : (expandVolume r).Only (GatewayCall.Below bound) := by
  refine (only_expandVolume r).mono ?_
  rintro d (hd | ⟨id, least, most, _, hbounds, rfl⟩)
  · exact hd.below
  · exact h _ _ hbounds

/-- What is asked of the gateway for a call is below what the call asks for. -/
theorem Asks.below {call : ControllerCall} {d : GatewayCall} (hd : c.Asks call d)
    (h : CapacityRange.AsksBelow bound call.range) : d.Below bound := by
  cases hd with
  | looks hlooks => exact hlooks.below
  | create checked options =>
    have hbounds := sizeBounds_of_createOptions options
    rw [(Request.CreateVolume.of_ofMessage checked).2] at hbounds
    exact ⟨createOptions_consistent options, h _ _ hbounds⟩
  | resize _ bounds => exact h _ _ bounds
  | delete _ => trivial
  | attach _ _ => trivial
  | detach _ _ => trivial

/-- A call that asks for less than a bound makes only calls of the gateway that do so. -/
theorem only_serve_below {bound : Nat} (c : Controller) {call : ControllerCall}
    (h : CapacityRange.AsksBelow bound call.range) : (c.service.serve call).Only (GatewayCall.Below bound) :=
  (only_serve c call).mono fun _ hd => hd.below h

/-- A call that asks for sizes below a bound keeps the volumes below it. -/
theorem below_program {bound : Nat} (c : Controller) {call : ControllerCall}
    (h : CapacityRange.AsksBelow bound call.range) {s : FaultyStore} (hs : s.store.Below bound) :
    ((c.program call).run FaultyStore.answer s).2.store.Below bound :=
  run_preserves (P := fun t : FaultyStore => t.store.Below bound) (fun _ _ hc ht => (FaultyStore.answer_below hc ht).2)
    ((only_serve_below c h).through fun _ hc => Idempotent.only_layer_below hc) hs

/-- The gateway after some calls. -/
def after (c : Controller) (calls : List ControllerCall) (s : FaultyStore) : FaultyStore :=
  calls.foldl (fun s call => ((c.program call).run FaultyStore.answer s).2) s

/-- What each of some calls keeps, they keep one after the other. -/
theorem after_preserves {P : FaultyStore → Prop} (c : Controller) {calls : List ControllerCall}
    (h : ∀ call ∈ calls, ∀ s, P s → P ((c.program call).run FaultyStore.answer s).2) {s : FaultyStore} (hs : P s) :
    P (c.after calls s) := by
  induction calls generalizing s with
  | nil => exact hs
  | cons call calls ih => exact ih (fun x hx => h x (List.mem_cons_of_mem _ hx)) (h call List.mem_cons_self s hs)

/-- Calls that all ask for less than a bound keep the stored volumes below it. -/
theorem below_after {bound : Nat} (c : Controller) {calls : List ControllerCall}
    (h : ∀ call ∈ calls, CapacityRange.AsksBelow bound call.range) {s : FaultyStore} (hs : s.store.Below bound) :
    (c.after calls s).store.Below bound :=
  after_preserves c (P := fun t => t.store.Below bound) (fun call hcall _ ht => below_program c (h call hcall) ht) hs

/-! ## What is told of created and grown volumes -/

/-- A volume that is answered to a request is one that its options accept. -/
theorem createVolume_accepts (h : c.createOptions r = .ok o) :
    (c.createVolume r).Yields (GatewayCall.AnswersBelow bound) fun answer =>
      ∀ info, answer = .ok info → ∃ v : Volume, info.capacityBytes = v.sizeBytes ∧ o.accepts v = true ∧ v.Below bound := by
  rw [createVolume, h]
  intro answer hanswer
  cases answer with
  | ok v =>
    rintro info ⟨⟩
    exact ⟨v, rfl, hanswer⟩
  | error e => cases e <;> rintro info ⟨⟩

/-- A creation that succeeds tells of a volume that its options accept. -/
theorem created_below {s : FaultyStore} {info : VolumeInfo} (hs : s.store.Below bound)
    (hrange : CapacityRange.AsksBelow bound r.capacityRange)
    (hok : ((c.perform (.createVolume r)).run FaultyStore.answer s).1 = .ok info) :
    ∃ (o : CreateOptions) (v : Volume),
      c.createOptions r = .ok o ∧ info.capacityBytes = v.sizeBytes ∧ o.accepts v = true ∧ v.Below bound := by
  rw [perform_createVolume] at hok
  cases hoptions : c.createOptions r with
  | error e =>
    rw [createVolume_of_error hoptions] at hok
    nomatch hok
  | ok o =>
    obtain ⟨v, hv⟩ := Idempotent.run_below (createVolume_accepts hoptions) (only_createVolume_below c r hrange) hs info hok
    exact ⟨o, v, rfl, hv⟩

/-- A growth that succeeds tells of what the gateway says the volume is now. -/
theorem expandVolume_tells (r : Request.ControllerExpandVolume) :
    (expandVolume r).Yields (GatewayCall.AnswersBelow bound) fun answer =>
      ∀ expansion, answer = .ok expansion → ∃ v : Volume, expansion.capacityBytes = v.sizeBytes ∧ v.Below bound := by
  unfold expandVolume
  split
  · exact nofun
  · exact nofun
  · refine Yields.bind (P := fun _ => True) (fun _ _ => trivial) fun answer _ => ?_
    split
    case h_3 => exact nofun
    case h_4 => exact nofun
    -- grown, or large enough before
    all_goals
      intro found hfound
      cases found with
      | ok v =>
        rintro expansion ⟨⟩
        exact ⟨v, rfl, hfound⟩
      | error e => cases e <;> exact nofun

/-- The size that an expansion answers is that of a volume below the bound. -/
theorem grown_below {r : Request.ControllerExpandVolume} {s : FaultyStore} {expansion : Expansion} (hs : s.store.Below bound)
    (hrange : CapacityRange.AsksBelow bound r.capacityRange)
    (hok : ((c.perform (.expandVolume r)).run FaultyStore.answer s).1 = .ok expansion) :
    ∃ v : Volume, expansion.capacityBytes = v.sizeBytes ∧ v.Below bound :=
  Idempotent.run_below (expandVolume_tells r) (only_expandVolume_below r hrange) hs expansion hok

/-- Whatever the gateway holds of volumes whose bytes can be counted in a word, a creation for a range of bytes that succeeds
tells of enough bytes, and of no more than a limit exactly if the limit has room for one GiB. -/
theorem capacity_within_range {range : CapacityRange} {s : FaultyStore} {info : VolumeInfo}
    (hrange : r.capacityRange = some range)
    (hsizes : ∀ v ∈ s.store.volumes.values, v.sizeGib.toNat * gib.toNat < UInt64.size)
    (hok : ((c.perform (.createVolume r)).run FaultyStore.answer s).1 = .ok info) :
    range.requiredBytes.toInt ≤ info.capacityBytes.toNat ∧
      (0 < range.limitBytes.toInt →
        ((info.capacityBytes.toNat : Int) ≤ range.limitBytes.toInt ↔ (gib.toNat : Int) ≤ range.limitBytes.toInt)) := by
  have hbelow : s.store.Below (2 ^ 34) := fun v hv => Volume.below_iff.2 (hsizes v hv)
  obtain ⟨o, v, hoptions, hbytes, haccepts, hv⟩ := created_below hbelow (CapacityRange.asksBelow_word r.capacityRange) hok
  have hbounds : range.Bounds o.minSizeGib o.maxSizeGib :=
    CapacityRange.bounds_of_sizeBounds (hrange ▸ sizeBounds_of_createOptions hoptions)
  obtain ⟨hleast, hmost, _⟩ := CreateOptions.accepts_iff.1 haccepts
  rw [hbytes, hv.toNat_sizeBytes]
  exact_mod_cast hbounds.bytes_within (UInt64.le_iff_toNat_le.1 hleast) (hmost.imp id UInt64.le_iff_toNat_le.1)

/-- A request for a volume of a size in the range. -/
def requestFor (range : CapacityRange) : Request.CreateVolume :=
  ⟨"a", some range, [⟨.singleNodeWriter, .block⟩], .empty, ⟨.empty⟩, none⟩

/-- A range with room for the volume of `holdingVolume`. -/
def roomyRange : CapacityRange := ⟨12_000_000_000, 20_000_000_000⟩

/-- A gateway with a volume of 15 GiB. -/
def holdingVolume : FaultyStore := { store := Store.insert {} ⟨⟨7⟩, "a", 15, "fsn1", "", none⟩ }

/-- What is told of it. -/
def heldVolume : VolumeInfo := ⟨"7", 15 * gib, .empty, [topology "fsn1"]⟩

/-- A range with room for more than a GiB, answered with the volume that is there. -/
theorem capacity_within_roomyRange :
    (requestFor roomyRange).capacityRange = some roomyRange ∧
      (∀ v ∈ holdingVolume.store.volumes.values, v.sizeGib.toNat * gib.toNat < UInt64.size) ∧
      ((perform ⟨"fsn1", .empty⟩ (.createVolume (requestFor roomyRange))).run FaultyStore.answer holdingVolume).1 =
        .ok heldVolume ∧
      roomyRange.requiredBytes.toInt ≤ heldVolume.capacityBytes.toNat ∧
      (0 < roomyRange.limitBytes.toInt →
        ((heldVolume.capacityBytes.toNat : Int) ≤ roomyRange.limitBytes.toInt ↔
          (gib.toNat : Int) ≤ roomyRange.limitBytes.toInt)) := by
  have hrange : (requestFor roomyRange).capacityRange = some roomyRange := rfl
  have hsizes : ∀ v ∈ holdingVolume.store.volumes.values, v.sizeGib.toNat * gib.toNat < UInt64.size := by decide +kernel
  have hok : ((perform ⟨"fsn1", .empty⟩ (.createVolume (requestFor roomyRange))).run FaultyStore.answer holdingVolume).1 =
      .ok heldVolume := rfl
  exact ⟨hrange, hsizes, hok, capacity_within_range hrange hsizes hok⟩

/-- Of a volume that must have no more than one byte, ten GiB are made. -/
theorem tiny_limit_exceeded :
    ((perform ⟨"fsn1", .empty⟩ (.createVolume (requestFor ⟨0, 1⟩))).run FaultyStore.answer {}).1 =
        .ok ⟨"1", 10 * gib, .empty, [topology "fsn1"]⟩ ∧
      0 < (1 : Int64).toInt ∧ (1 : Int64).toInt < (10 * gib).toNat :=
  ⟨rfl, by decide, by decide⟩

end Controller

end VolumeDriver
