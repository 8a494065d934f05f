import VolumeDriver.Proofs.Gateway.Absorption

/-!
# How large volumes get

Of a store whose volumes are all below a bound, calls that ask for sizes below the bound tell of such volumes and leave such a
store (`Store.answer_below`). So do the programs of the idempotent layer (`Idempotent.layer_below`); a volume that they answer a
creation with, new or not, is one that the options accept.
-/

namespace VolumeDriver

open Program

/-- The volume is smaller than so many GiB. -/
def Volume.Below (bound : Nat) (v : Volume) : Prop := v.sizeGib.toNat < bound

def Store.Below (bound : Nat) (s : Store) : Prop := ∀ v ∈ s.volumes.values, v.Below bound

namespace GatewayCall

/-- The call asks for no size from the bound on, and for no volume that its own options rule out. -/
def Below (bound : Nat) : GatewayCall → Prop
  | create o => o.Consistent ∧ o.minSizeGib.toNat < bound
  | resize _ sizeGib => sizeGib.toNat < bound
  | _ => True

/-- The volumes that the answer tells of are below the bound, and one that was asked for is as the options say. -/
def AnswersBelow (bound : Nat) : (c : GatewayCall) → Except VolumeError c.Answer → Prop
  | .create o, .ok v => o.accepts v = true ∧ v.Below bound
  | .getById _, .ok v | .getByName _, .ok v => v.Below bound
  | .all, .ok volumes => ∀ v ∈ volumes, v.Below bound
  | _, _ => True

/-- A call that only looks asks for no size. -/
theorem Looks.below {bound : Nat} {c : GatewayCall} (h : c.Looks) : c.Below bound := by
  cases c with
  | getById id => trivial
  | getByName name => trivial
  | all => trivial
  | _ => exact h.elim

/-- A failure tells of no volume. -/
theorem answersBelow_error {bound : Nat} {c : GatewayCall} {r : Except VolumeError c.Answer} {e : VolumeError}
    (h : r = .error e) : c.AnswersBelow bound r := by
  subst h
  cases c <;> trivial

end GatewayCall

variable {bound : Nat}

namespace Store

/-- A volume below the bound may be put back. -/
theorem Below.put {s : Store} (h : s.Below bound) {id : VolumeId} {w : Volume} (hw : w.Below bound) :
    (s.put id w).Below bound := by
  intro v hv
  rcases SortedMap.mem_values_insert hv with rfl | hv
  · exact hw
  · exact h v hv

/-- A stored volume is below the bound. -/
theorem Below.of_get? {s : Store} (h : s.Below bound) {id : VolumeId} {v : Volume} (hv : s.volumes.get? id = some v) :
    v.Below bound := h v (SortedMap.mem_values_iff.2 ⟨id, hv⟩)

/-- A call that asks for less than the bound leaves all volumes below it. -/
theorem Below.step {s t : Store} (hs : s.Below bound) {c : GatewayCall} (hc : c.Below bound) (hstep : s.Step c t) :
    t.Below bound := by
  cases hstep with
  | unchanged => exact hs
  | created o =>
    intro v hv
    rcases SortedMap.mem_values_insert hv with rfl | hv
    · exact hc.2
    · exact hs v hv
  | deleted id => exact fun v hv => hs v ((List.filter_sublist.map _).subset hv)
  | attached id server v hv =>
    have hbelow : v.Below bound := hs.of_get? hv
    exact hs.put (w := held id server v) hbelow
  | detached id _ v hv =>
    have hbelow : v.Below bound := hs.of_get? hv
    exact hs.put (w := released v) hbelow
  | resized id sizeGib v hv => exact hs.put (w := { v with sizeGib := sizeGib }) hc

/-- Over volumes below the bound, a call that asks for less tells of none from the bound on. -/
theorem answersBelow {s : Store} (hs : s.Below bound) {c : GatewayCall} (hc : c.Below bound) :
    c.AnswersBelow bound (s.answer c).1 := by
  cases c with
  | create o =>
    rw [Store.answer]
    by_cases htaken : s.Taken o.name
    · rw [create_of_taken htaken]
      trivial
    · rw [create_of_free htaken]
      exact ⟨hc.1.accepts_newVolume s, hc.2⟩
  | getById id =>
    rw [Store.answer, getById]
    cases hget : s.volumes.get? id with
    | none => trivial
    | some v => exact hs.of_get? hget
  | getByName name =>
    rw [Store.answer, getByName]
    cases hfind : s.findName name with
    | none => trivial
    | some v => exact hs v (List.mem_of_find?_eq_some hfind)
  | all => exact hs
  | _ => trivial

end Store

/-- The same of a gateway that may fail, with what it leaves. -/
theorem FaultyStore.answer_below {c : GatewayCall} (hc : c.Below bound) {s : FaultyStore} (hs : s.store.Below bound) :
    c.AnswersBelow bound (answer c s).1 ∧ (answer c s).2.store.Below bound := by
  rcases answer_cases c s with ⟨⟨e, he⟩, hstore⟩ | ⟨hr, hstore⟩
  · rw [hstore]
    exact ⟨GatewayCall.answersBelow_error he, hs⟩
  · rw [hr, hstore]
    exact ⟨Store.answersBelow hs hc, hs.step hc (Store.step_answer c s.store)⟩

namespace Idempotent

open GatewayCall (AnswersBelow)

/-- A volume that a creation is answered with is one that the options accept. -/
theorem create_below (o : CreateOptions) :
    (create o).Yields (AnswersBelow bound) (AnswersBelow bound (.create o)) := by
  intro r hr
  cases r with
  | ok v => exact hr
  | error e =>
    cases e with
    | volumeAlreadyExists =>
      intro found hfound
      cases found with
      | ok existing =>
        show AnswersBelow bound (.create o) (if o.accepts existing then .ok existing else .error .volumeAlreadyExists)
        split
        case isTrue haccepts => exact ⟨haccepts, hfound⟩
        case isFalse => trivial
      | error e => cases e <;> trivial
    | _ => trivial

/-- If the replies tell of volumes below the bound, so does the answer of the layer. -/
theorem layer_below (c : GatewayCall) :
    (layer c).Yields (AnswersBelow bound) (AnswersBelow bound c) := by
  cases c with
  | create o => exact create_below o
  | getById id => exact fun r hr => hr
  | getByName name => exact fun r hr => hr
  | all => exact fun r hr => hr
  | delete id => exact yields_of_forall (fun _ => trivial) _
  | attach id server => exact yields_of_forall (fun _ => trivial) _
  | detach id server => exact yields_of_forall (fun _ => trivial) _
  | resize id sizeGib => exact fun r hr => hr

/-- The layer makes no call for more than it is asked for. -/
theorem only_layer_below {c : GatewayCall} (h : c.Below bound) : (layer c).Only (GatewayCall.Below bound) := by
  cases c with
  | create o =>
    refine (only_create o).mono ?_
    rintro d (rfl | hd)
    · exact h
    · exact hd.below
  | getById id => exact only_ask h
  | getByName name => exact only_ask h
  | all => exact only_ask h
  | delete id =>
    refine (only_delete id).mono ?_
    rintro d (rfl | rfl) <;> trivial
  | attach id server =>
    refine (only_attach id server).mono ?_
    rintro d (rfl | hd)
    · trivial
    · exact hd.below
  | detach id server =>
    refine (only_detach id server).mono ?_
    rintro d rfl
    trivial
  | resize id sizeGib => exact only_ask h

/-- What a program makes of answers about volumes below the bound, it makes of the answers of a store of such volumes, below
the layer. -/
theorem run_below {α : Type} {P : α → Prop} {p : Program gateway α} (hp : p.Yields (AnswersBelow bound) P)
    (hq : p.Only (GatewayCall.Below bound)) {s : FaultyStore} (hs : s.store.Below bound) :
    P ((p.through layer).run FaultyStore.answer s).1 := by
  have hlayered : (p.through layer).Yields (AnswersBelow bound) P := hp.through hq fun c _ => layer_below c
  have honly : (p.through layer).Only (GatewayCall.Below bound) := hq.through fun c hc => only_layer_below hc
  exact hlayered.run honly (T := fun t => t.store.Below bound) (fun c t hc ht => FaultyStore.answer_below hc ht) hs

end Idempotent

end VolumeDriver
