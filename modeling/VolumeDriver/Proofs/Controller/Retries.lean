import VolumeDriver.Controller
import VolumeDriver.Proofs.Capacity
import VolumeDriver.Proofs.Gateway.Absorption

/-!
# Retried requests converge

An orchestrator repeats a request until it is answered, and cannot know how far the attempts before got. Every request to the
controller absorbs the traces of its attempts, so however these failed, the last one answers and leaves what a single one
would have (`retries_converge`).
-/

namespace VolumeDriver

open Csi Program

/-- A checked request to the controller. -/
inductive ControllerRequest where
  | createVolume (r : Request.CreateVolume)
  | deleteVolume (r : Request.DeleteVolume)
  | publishVolume (r : Request.ControllerPublishVolume)
  | unpublishVolume (r : Request.ControllerUnpublishVolume)
  | validateCapabilities (r : Request.ValidateVolumeCapabilities)
  | listVolumes (r : Request.ListVolumes)
  | expandVolume (r : Request.ControllerExpandVolume)

/-- What the controller's service answers to a request. -/
abbrev ControllerRequest.Answer : ControllerRequest → Type
  | createVolume _ => Except Refusal VolumeInfo
  | deleteVolume _ | unpublishVolume _ => Except Refusal Unit
  | publishVolume _ => Except Refusal StringMap
  | validateCapabilities _ => Except Refusal Validation
  | listVolumes _ => Except Refusal VolumeList
  | expandVolume _ => Except Refusal Expansion

namespace Controller

/-- The program of the controller's service for a request. -/
def handle (c : Controller) : (r : ControllerRequest) → Program gateway r.Answer
  | .createVolume r => c.service.createVolume r
  | .deleteVolume r => c.service.deleteVolume r
  | .publishVolume r => c.service.controllerPublishVolume r
  | .unpublishVolume r => c.service.controllerUnpublishVolume r
  | .validateCapabilities r => c.service.validateVolumeCapabilities r
  | .listVolumes r => c.service.listVolumes r
  | .expandVolume r => c.service.controllerExpandVolume r

/-- The program for a request over the gateway below the idempotent layer. -/
def perform (c : Controller) (r : ControllerRequest) : Program gateway r.Answer := (c.handle r).through Idempotent.layer

theorem perform_createVolume (c : Controller) (r : Request.CreateVolume) :
    c.perform (.createVolume r) = (c.createVolume r).through Idempotent.layer := rfl

theorem perform_expandVolume (c : Controller) (r : Request.ControllerExpandVolume) :
    c.perform (.expandVolume r) = (expandVolume r).through Idempotent.layer := rfl

/-! ## Through the idempotent layer -/

/-- A call that only looks is passed on as it is. -/
theorem looks_layer {c : GatewayCall} (h : c.Looks) : (Idempotent.layer c).Only GatewayCall.Looks := by
  cases c with
  | getById id => exact only_ask trivial
  | getByName name => exact only_ask trivial
  | all => exact only_ask trivial
  | _ => exact h.elim

/-- A program that only looks does so through the layer, and absorbs its traces. -/
theorem absorbs_of_looks {α : Type} {p : Program gateway α} (h : p.Only GatewayCall.Looks) :
    Absorbs GatewayCall.Looks (p.through Idempotent.layer) :=
  .of_looks (h.through fun _ hc => looks_layer hc)

/-- One call whose layer absorbs its traces, and looking after it. -/
theorem absorbs_ask_bind {α : Type} {Q : GatewayCall → Prop} {c : GatewayCall}
    {f : Except VolumeError c.Answer → Program gateway α} (h : Absorbs Q (Idempotent.layer c))
    (hf : ∀ r, (f r).Only GatewayCall.Looks) :
    Absorbs (fun d => Q d ∨ d.Looks) ((askGateway c >>= f).through Idempotent.layer) := by
  rw [bind_eq, through_ask_bind]
  exact h.bind fun r => (hf r).through fun _ hc => looks_layer hc

/-! ## The requests -/

/-- What the gateway is asked for if a request to create a volume can be met. -/
theorem of_createOptions {c : Controller} {r : Request.CreateVolume} {o : CreateOptions} (h : c.createOptions r = .ok o) :
    o.name = r.name ∧ CapacityRange.sizeBounds r.capacityRange = some (o.minSizeGib, o.maxSizeGib) ∧
      o.location = c.locationFor r.accessibilityRequirements ∧ c.labelsFor r.parameters = .ok o.labels := by
  unfold createOptions at h
  split at h
  · nomatch h
  · split at h
    · nomatch h
    · rename_i hbounds
      split at h
      · nomatch h
      · rename_i hlabels
        cases h
        exact ⟨rfl, hbounds, rfl, hlabels⟩

/-- The gateway is asked for a volume within the bounds of the range that is requested. -/
theorem sizeBounds_of_createOptions {c : Controller} {r : Request.CreateVolume} {o : CreateOptions}
    (h : c.createOptions r = .ok o) : CapacityRange.sizeBounds r.capacityRange = some (o.minSizeGib, o.maxSizeGib) :=
  (of_createOptions h).2.1

/-- What the gateway is asked for a request to create a volume is met by the volume that it makes. -/
theorem createOptions_consistent {c : Controller} {r : Request.CreateVolume} {o : CreateOptions}
    (h : c.createOptions r = .ok o) : o.Consistent := CapacityRange.ordered_of_sizeBounds (sizeBounds_of_createOptions h)

/-- A request that cannot be met is refused before the gateway is asked. -/
theorem createVolume_of_error {c : Controller} {r : Request.CreateVolume} {e : Refusal} (h : c.createOptions r = .error e) :
    c.createVolume r = done (.error e) := by
  rw [createVolume, h]
  rfl

/-- A creation absorbs an attempt of it that was broken off. -/
theorem absorbs_createVolume (c : Controller) (r : Request.CreateVolume) :
    ∃ Q, Absorbs Q ((c.createVolume r).through Idempotent.layer) := by
  unfold createVolume
  split
  · exact ⟨_, absorbs_of_looks trivial⟩
  · rename_i o ho
    refine ⟨_, absorbs_ask_bind (Idempotent.absorbs_create (createOptions_consistent ho)) fun answer => ?_⟩
    split <;> trivial

/-- A deletion absorbs an attempt of it that was broken off. -/
theorem absorbs_deleteVolume (r : Request.DeleteVolume) : ∃ Q, Absorbs Q ((deleteVolume r).through Idempotent.layer) := by
  unfold deleteVolume
  split
  · exact ⟨_, absorbs_of_looks trivial⟩
  · rename_i id _
    refine ⟨_, absorbs_ask_bind (Idempotent.absorbs_delete id) fun answer => ?_⟩
    split <;> trivial

/-- A publication absorbs an attempt of it that was broken off. -/
theorem absorbs_publishVolume (r : Request.ControllerPublishVolume) :
    ∃ Q, Absorbs Q ((publishVolume r).through Idempotent.layer) := by
  unfold publishVolume
  split
  · exact ⟨_, absorbs_of_looks trivial⟩
  split
  · exact ⟨_, absorbs_of_looks trivial⟩
  split
  · exact ⟨_, absorbs_of_looks trivial⟩
  · exact ⟨_, absorbs_of_looks trivial⟩
  · rename_i id server _ _
    refine ⟨_, absorbs_ask_bind (Idempotent.absorbs_attach id server) fun answer => ?_⟩
    split
    · trivial
    · refine Only.bind (only_ask trivial) fun found => ?_
      split <;> trivial

/-- A withdrawal absorbs an attempt of it that was broken off. -/
theorem absorbs_unpublishVolume (r : Request.ControllerUnpublishVolume) :
    ∃ Q, Absorbs Q ((unpublishVolume r).through Idempotent.layer) := by
  unfold unpublishVolume
  split
  · exact ⟨_, absorbs_of_looks trivial⟩
  · exact ⟨_, absorbs_of_looks trivial⟩
  · rename_i id server _ _
    refine ⟨_, absorbs_ask_bind (Idempotent.absorbs_detach id server) fun answer => ?_⟩
    split <;> trivial

/-- A validation only looks. -/
theorem looks_validateCapabilities (r : Request.ValidateVolumeCapabilities) :
    (validateCapabilities r).Only GatewayCall.Looks := by
  unfold validateCapabilities
  split
  · trivial
  · refine Only.bind (only_ask trivial) fun found => ?_
    split
    · trivial
    · trivial
    · split <;> trivial

/-- A list only looks. -/
theorem looks_listVolumes (r : Request.ListVolumes) : (listVolumes r).Only GatewayCall.Looks := by
  unfold listVolumes
  split
  · trivial
  · refine Only.bind (only_ask trivial) fun found => ?_
    split <;> trivial

/-- Growing a volume again finds it large enough. The layer passes this on; it is the controller that takes it for success. -/
theorem absorbs_expandVolume (r : Request.ControllerExpandVolume) :
    ∃ Q, Absorbs Q ((expandVolume r).through Idempotent.layer) := by
  unfold expandVolume
  split
  · exact ⟨_, absorbs_of_looks trivial⟩
  · exact ⟨_, absorbs_of_looks trivial⟩
  · rename_i id least most _ _
    refine ⟨fun c => c = .resize id least ∨ c.Looks, ?_, ?_⟩
    · rw [bind_eq, through_ask_bind]
      refine Only.bind (only_ask (Or.inl rfl)) fun answer => Only.through (Q := GatewayCall.Looks) ?_ fun c hc =>
        (looks_layer hc).mono fun d hd => Or.inr hd
      split
      case h_3 => trivial
      case h_4 => trivial
      -- grown, or large enough before
      all_goals
        refine Only.bind (only_ask trivial) fun found => ?_
        split <;> trivial
    · rintro c (rfl | hc) s
      · rcases s.resize_cases id least with ⟨_, hr⟩ | ⟨v, _, ⟨_, hr⟩ | ⟨_, hr⟩⟩
        · rw [Store.answer, hr]
        · rw [Store.answer, hr]
        · have hagain : (s.put id { v with sizeGib := least }).resize id least =
              (.error .volumeSizeAlreadyReached, s.put id { v with sizeGib := least }) := by
            simp [Store.resize]
          simp only [Store.perform, bind_eq, ask, call_bind, through, Idempotent.layer, run_call, Store.answer, hr, hagain,
            done_bind]
      · rw [Store.answer_of_looks hc]

/-- Every request absorbs the traces of its attempts. -/
theorem absorbs_perform (c : Controller) (r : ControllerRequest) : ∃ Q, Absorbs Q (c.perform r) := by
  cases r with
  | createVolume r => exact absorbs_createVolume c r
  | deleteVolume r => exact absorbs_deleteVolume r
  | publishVolume r => exact absorbs_publishVolume r
  | unpublishVolume r => exact absorbs_unpublishVolume r
  | validateCapabilities r => exact ⟨_, absorbs_of_looks (looks_validateCapabilities r)⟩
  | listVolumes r => exact ⟨_, absorbs_of_looks (looks_listVolumes r)⟩
  | expandVolume r => exact absorbs_expandVolume r

/-- After any attempts at a request, each with any failures queued before it, the request answers and leaves what it would
have answered and left at first. -/
theorem retries_converge (c : Controller) (r : ControllerRequest) (queues : List (List (GatewayOp × VolumeError)))
    (s : FaultyStore) :
    ((c.perform r).run FaultyStore.answer (FaultyStore.attempts (c.perform r) queues s).calm).1 =
        ((c.perform r).run FaultyStore.answer s.calm).1 ∧
      ((c.perform r).run FaultyStore.answer (FaultyStore.attempts (c.perform r) queues s).calm).2.store =
        ((c.perform r).run FaultyStore.answer s.calm).2.store := by
  obtain ⟨Q, hQ⟩ := absorbs_perform c r
  exact hQ.run_after_attempts queues s

end Controller

end VolumeDriver
