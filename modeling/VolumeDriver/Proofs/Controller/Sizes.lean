import VolumeDriver.Proofs.Controller.Capacity

/-!
# Sizes of the volumes that a controller keeps

A controller asks its gateway for no size that the provider does not make, and for none whose bytes a word has no room for: that is
what the bounds of a range are (`CapacityRange.Exact`). A volume has the size that it was made with, or a larger one that was asked
for later. So, of a gateway that had no volumes, every volume has such a size, whichever calls the controller was made to answer, one
after the other or at once (`Controller.sizes_exact`).
-/

namespace VolumeDriver

open Csi Program

/-- The volume has a size that can be asked for, and its bytes can be counted in a word. -/
structure Volume.Sized (v : Volume) : Prop where
  smallest_le : 10 ≤ v.sizeGib.toNat
  le_largest : v.sizeGib.toNat ≤ 2 ^ 33
  bytes_eq : v.sizeBytes.toNat = v.sizeGib.toNat * 2 ^ 30

namespace Store

variable {bound : Nat} {s t : Store}

/-- No volume is smaller than so many GiB. -/
def AtLeast (bound : Nat) (s : Store) : Prop := ∀ v ∈ s.volumes.values, bound ≤ v.sizeGib.toNat

/-- A volume that is put back no smaller keeps the least size. -/
theorem AtLeast.put (hs : s.AtLeast bound) {id : VolumeId} {v w : Volume} (hv : s.volumes.get? id = some v)
    (hgrown : v.sizeGib ≤ w.sizeGib) : (s.put id w).AtLeast bound := by
  intro u hu
  rcases SortedMap.mem_values_insert hu with rfl | hu
  · exact Nat.le_trans (hs v (SortedMap.mem_values_iff.2 ⟨id, hv⟩)) (UInt64.le_iff_toNat_le.1 hgrown)
  · exact hs u hu

/-- Volumes only grow, so it is for creations alone to ask for enough. -/
theorem AtLeast.step (hs : s.AtLeast bound) {c : GatewayCall} (hc : ∀ o, c = .create o → bound ≤ o.minSizeGib.toNat)
    (hstep : s.Step c t) : t.AtLeast bound := by
  cases hstep with
  | unchanged => exact hs
  | created o =>
    intro v hv
    rcases SortedMap.mem_values_insert hv with rfl | hv
    · exact hc o rfl
    · exact hs v hv
  | deleted id => exact fun v hv => hs v ((List.filter_sublist.map _).subset hv)
  | attached id server v hv => exact hs.put hv (UInt64.le_refl _)
  | detached id _ v hv => exact hs.put hv (UInt64.le_refl _)
  | resized id sizeGib v hv hlt => exact hs.put hv (UInt64.le_of_lt hlt)

/-- Nothing is stored, or nothing but volumes of such sizes. -/
def Sized (s : Store) : Prop := s.AtLeast 10 ∧ s.Below (2 ^ 33 + 1)

/-- Where nothing is stored no size is wrong. -/
theorem sized_of_empty (h : s.volumes = .empty) : s.Sized := by
  have hnone : s.volumes.values = [] := congrArg SortedMap.values h
  refine ⟨fun v hv => ?_, fun v hv => ?_⟩ <;>
    rw [hnone] at hv <;> cases hv

/-- The volumes that are stored have such sizes. -/
theorem Sized.volume (hs : s.Sized) {v : Volume} (hv : v ∈ s.volumes.values) : v.Sized := by
  have hbelow : v.Below (2 ^ 33 + 1) := hs.2 v hv
  have hword : v.Below (2 ^ 34) := Nat.lt_trans hbelow (by decide)
  exact ⟨hs.1 v hv, Nat.le_of_lt_succ hbelow, hword.toNat_sizeBytes⟩

end Store

/-- No call asks for more than the call that it comes from. -/
theorem GatewayCall.Becomes.below {bound : Nat} {d e : GatewayCall} (h : d.Becomes e) (hd : d.Below bound) : e.Below bound := by
  cases h with
  | itself => exact hd
  | looks hlooks => exact hlooks.below
  | detaches id => trivial

namespace Controller

variable {c : Controller} {call : ControllerCall} {d e : GatewayCall} {o : CreateOptions}

/-- A creation asks for what a range has as its minimum, or for the size of a volume for which there is none. -/
theorem Asks.smallest_le (h : c.Asks call (.create o)) : 10 ≤ o.minSizeGib.toNat := by
  cases h with
  | looks hlooks => exact hlooks.elim
  | create _ options => exact CapacityRange.smallest_le_of_sizeBounds (sizeBounds_of_createOptions options)

/-- A call that is made for a call of the controller keeps to the sizes that can be asked for. -/
theorem sized_answer (hasks : c.Asks call d) (hbecomes : d.Becomes e) {s : FaultyStore} (hs : s.store.Sized) :
    (FaultyStore.answer e s).2.store.Sized := by
  have hbelow : e.Below (2 ^ 33 + 1) := hbecomes.below (hasks.below (CapacityRange.asksBelow_signed _))
  refine ⟨hs.1.step (fun o he => ?_) (FaultyStore.step_answer e s), (FaultyStore.answer_below hbelow hs.2).2⟩
  -- a creation passes the layer as it is
  subst he
  cases hbecomes with
  | itself => exact hasks.smallest_le
  | looks hlooks => exact hlooks.elim

/-- Calls keep the sizes of volumes. -/
theorem sized_after (c : Controller) (calls : List ControllerCall) {s : FaultyStore} (hs : s.store.Sized) :
    (c.after calls s).store.Sized := by
  refine after_preserves c (P := fun t => t.store.Sized) (fun call _ t ht => ?_) hs
  refine run_preserves (P := fun t : FaultyStore => t.store.Sized) (fun e u he hu => ?_) (only_program c call) ht
  obtain ⟨d, hasks, hbecomes⟩ := he
  exact sized_answer hasks hbecomes hu

/-- Calls that are under way at once keep to the sizes, too. -/
theorem sized_pool (c : Controller) (calls : List ControllerCall) (turns : List Turn) {s : FaultyStore} (hs : s.store.Sized) :
    ((Pool.start (calls.map c.program) s).run turns).shared.store.Sized := by
  refine Pool.run_keeps (P := fun t => t.store.Sized) (Q := fun e => ∃ call d, c.Asks call d ∧ d.Becomes e) (fun e u he hu => ?_)
    (fun _ _ _ ht => ht) (fun t ht => ?_) hs turns
  · obtain ⟨call, d, hasks, hbecomes⟩ := he
    exact sized_answer hasks hbecomes hu
  · rw [Pool.start, List.map_map] at ht
    obtain ⟨call, _, rfl⟩ := List.mem_map.1 ht
    exact (only_program c call).mono fun e he => ⟨call, he⟩

/-- What is made of a range that is not negative is exact. So every volume has between 10 and 2³³ GiB, whose bytes can be counted in a
word, whichever calls a controller answers over a gateway that had no volumes, one after the other or at once. -/
theorem sizes_exact :
    (∀ range : CapacityRange, 0 ≤ range.requiredBytes.toInt → 0 ≤ range.limitBytes.toInt → range.Exact) ∧
      ∀ (c : Controller) (calls : List ControllerCall) (s : FaultyStore), s.store.volumes = .empty →
        (∀ v ∈ (c.after calls s).store.volumes.values, v.Sized) ∧
          ∀ turns : List Turn, ∀ v ∈ ((Pool.start (calls.map c.program) s).run turns).shared.store.volumes.values, v.Sized := by
  refine ⟨fun range => CapacityRange.exact_of_nonneg, fun c calls s hempty => ?_⟩
  have hs := Store.sized_of_empty hempty
  exact ⟨fun v => (sized_after c calls hs).volume, fun turns v => (sized_pool c calls turns hs).volume⟩

/-- A range of as many bytes as a message can ask for. -/
def largestRange : CapacityRange := ⟨0x7FFFFFFFFFFFFFFF, 0⟩

/-- A volume is made, and then grown to that many bytes. -/
def largestGrowth : List ControllerCall :=
  [.createVolume ⟨"a", some roomyRange, [⟨some 1, some .block⟩], .empty, .empty, none, none⟩,
   .controllerExpandVolume ⟨"1", some largestRange, .empty, none⟩]

/-- A volume that is grown to the most bytes that a message can ask for. -/
theorem sizes_exact_largestGrowth :
    let grown := (after ⟨"fsn1", .empty⟩ largestGrowth {}).store.volumes.values
    (0 ≤ largestRange.requiredBytes.toInt ∧ 0 ≤ largestRange.limitBytes.toInt) ∧ largestRange.Exact ∧
      grown = [⟨⟨1⟩, "a", 2 ^ 33, "fsn1", "", none⟩] ∧ ∀ v ∈ grown, v.Sized := by
  have hrequired : 0 ≤ largestRange.requiredBytes.toInt := by decide
  have hlimit : 0 ≤ largestRange.limitBytes.toInt := by decide
  obtain ⟨hexact, hsized⟩ := sizes_exact
  exact ⟨⟨hrequired, hlimit⟩, hexact largestRange hrequired hlimit, rfl, (hsized ⟨"fsn1", .empty⟩ largestGrowth {} rfl).1⟩

end Controller

end VolumeDriver
