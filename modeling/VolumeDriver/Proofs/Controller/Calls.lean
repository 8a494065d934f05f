import VolumeDriver.Proofs.Controller.Retries
import VolumeDriver.Proofs.Csi.Request
import VolumeDriver.Proofs.Csi.Response
import VolumeDriver.Proofs.Gateway.Interleaving

/-!
# What a call of the controller asks of its gateway

A call asks the gateway for what its message says, with the volume and the server that the message names (`Controller.Asks`);
beside that it only looks. Through the idempotent layer a call becomes itself, looks, and, before a volume is deleted, its
detachment (`GatewayCall.Becomes`). So a call of the controller changes no volume but the one that it names
(`Controller.only_program`).
-/

namespace VolumeDriver

open Csi Program

namespace Csi.Request

/-! ## Fields of requests -/

/-- A request to create a volume has the name and the range of its message. -/
theorem CreateVolume.of_ofMessage {m : Message.CreateVolume} {r : CreateVolume} (h : ofMessage m = .ok r) :
    r.name = m.name ∧ r.capacityRange = m.capacityRange :=
  have hconveys := (checks_ofMessage m).post_of_ok h
  ⟨hconveys.name, hconveys.capacityRange⟩

/-- A request to delete a volume names the volume of its message. -/
theorem DeleteVolume.of_ofMessage {m : Message.DeleteVolume} {r : DeleteVolume} (h : ofMessage m = .ok r) :
    r.volumeId = m.volumeId := ((checks_ofMessage m).post_of_ok h).volumeId

/-- A request to publish a volume names the volume and the node of its message. -/
theorem ControllerPublishVolume.of_ofMessage {m : Message.ControllerPublishVolume} {r : ControllerPublishVolume}
    (h : ofMessage m = .ok r) : r.volumeId = m.volumeId ∧ r.nodeId = m.nodeId :=
  have hconveys := (checks_ofMessage m).post_of_ok h
  ⟨hconveys.volumeId, hconveys.nodeId⟩

/-- A request to unpublish a volume names the volume of its message. -/
theorem ControllerUnpublishVolume.of_ofMessage {m : Message.ControllerUnpublishVolume} {r : ControllerUnpublishVolume}
    (h : ofMessage m = .ok r) : r.volumeId = m.volumeId := ((checks_ofMessage m).post_of_ok h).volumeId

/-- A request to expand a volume has the name and the range of its message. -/
theorem ControllerExpandVolume.of_ofMessage {m : Message.ControllerExpandVolume} {r : ControllerExpandVolume}
    (h : ofMessage m = .ok r) : r.volumeId = m.volumeId ∧ r.capacityRange = m.capacityRange :=
  have hconveys := (checks_ofMessage m).post_of_ok h
  ⟨hconveys.volumeId, hconveys.capacityRange⟩

end Csi.Request

/-! ## Through the idempotent layer -/

/-- The calls that the idempotent layer makes of a call. -/
inductive GatewayCall.Becomes : GatewayCall → GatewayCall → Prop
  | itself (d : GatewayCall) : Becomes d d
  | looks {d e : GatewayCall} (h : e.Looks) : Becomes d e
  | detaches (id : VolumeId) : Becomes (.delete id) (.detach id none)

/-- The idempotent layer makes of a call that call, calls that only look, and for a deletion a detachment before it. -/
theorem Idempotent.only_layer (d : GatewayCall) : (layer d).Only d.Becomes := by
  cases d with
  | create o =>
    refine (only_create o).mono ?_
    rintro e (rfl | he)
    · exact .itself _
    · exact .looks he
  | delete id =>
    refine (only_delete id).mono ?_
    rintro e (rfl | rfl)
    · exact .detaches id
    · exact .itself _
  | attach id server =>
    refine (only_attach id server).mono ?_
    rintro e (rfl | he)
    · exact .itself _
    · exact .looks he
  | detach id server =>
    refine (only_detach id server).mono ?_
    rintro e rfl
    exact .itself _
  | getById id => exact only_ask (.itself _)
  | getByName name => exact only_ask (.itself _)
  | resize id sizeGib => exact only_ask (.itself _)
  | all => exact only_ask (.itself _)

namespace Controller

/-! ## The requests -/

/-- Creating a volume asks the gateway for one creation, with the options of the request. -/
theorem only_createVolume (c : Controller) (r : Request.CreateVolume) :
    (c.createVolume r).Only fun d : GatewayCall => ∃ o, c.createOptions r = .ok o ∧ d = .create o := by
  unfold createVolume
  split
  · trivial
  · rename_i o ho
    refine Only.bind (only_ask ⟨o, ho, rfl⟩) fun answer => ?_
    split <;> trivial

/-- Deleting a volume asks the gateway for one deletion, of the volume that is named. -/
theorem only_deleteVolume (r : Request.DeleteVolume) :
    (deleteVolume r).Only fun d : GatewayCall => ∃ id, VolumeId.ofString r.volumeId = .ok id ∧ d = .delete id := by
  unfold deleteVolume
  split
  · trivial
  · rename_i id hid
    refine Only.bind (only_ask ⟨id, hid, rfl⟩) fun answer => ?_
    split <;> trivial

/-- Publishing a volume looks, and attaches the volume that is named to the server that is named. -/
theorem only_publishVolume (r : Request.ControllerPublishVolume) :
    (publishVolume r).Only fun d : GatewayCall =>
      d.Looks ∨ ∃ id server, VolumeId.ofString r.volumeId = .ok id ∧ ServerId.ofString r.nodeId = .ok server ∧
        d = .attach id server := by
  unfold publishVolume
  split
  · trivial
  split
  · trivial
  split
  · trivial
  · trivial
  · rename_i id server hid hserver
    refine Only.bind (only_ask (Or.inr ⟨id, server, hid, hserver, rfl⟩)) fun answer => ?_
    split
    · trivial
    · refine Only.bind (only_ask (Or.inl trivial)) fun found => ?_
      split <;> trivial

/-- Unpublishing a volume asks the gateway for a detachment of the volume that is named. -/
theorem only_unpublishVolume (r : Request.ControllerUnpublishVolume) :
    (unpublishVolume r).Only fun d : GatewayCall =>
      ∃ id server, VolumeId.ofString r.volumeId = .ok id ∧ d = .detach id server := by
  unfold unpublishVolume
  split
  · trivial
  · trivial
  · rename_i id server hid _
    refine Only.bind (only_ask ⟨id, server, hid, rfl⟩) fun answer => ?_
    split <;> trivial

/-- Expanding a volume looks, and resizes the volume that is named to the lower bound of the range. -/
theorem only_expandVolume (r : Request.ControllerExpandVolume) :
    (expandVolume r).Only fun d : GatewayCall =>
      d.Looks ∨ ∃ id least most, VolumeId.ofString r.volumeId = .ok id ∧
        CapacityRange.sizeBounds r.capacityRange = some (least, most) ∧ d = .resize id least := by
  unfold expandVolume
  split
  · trivial
  · trivial
  · rename_i id least most hid hbounds
    refine Only.bind (only_ask (Or.inr ⟨id, least, most, hid, hbounds, rfl⟩)) fun answer => ?_
    split
    case h_3 => trivial
    case h_4 => trivial
    -- grown, or large enough before
    all_goals
      refine Only.bind (only_ask (Or.inl trivial)) fun found => ?_
      split <;> trivial

/-! ## The calls -/

/-- What a call of the controller asks of its gateway. -/
inductive Asks (c : Controller) : ControllerCall → GatewayCall → Prop
  | looks {call : ControllerCall} {d : GatewayCall} (h : d.Looks) : Asks c call d
  | create {m : Message.CreateVolume} {r : Request.CreateVolume} {o : CreateOptions}
      (checked : Request.CreateVolume.ofMessage m = .ok r) (options : c.createOptions r = .ok o) :
      Asks c (.createVolume m) (.create o)
  | delete {m : Message.DeleteVolume} {id : VolumeId} (named : VolumeId.ofString m.volumeId = .ok id) :
      Asks c (.deleteVolume m) (.delete id)
  | attach {m : Message.ControllerPublishVolume} {id : VolumeId} {server : ServerId}
      (named : VolumeId.ofString m.volumeId = .ok id) (node : ServerId.ofString m.nodeId = .ok server) :
      Asks c (.controllerPublishVolume m) (.attach id server)
  | detach {m : Message.ControllerUnpublishVolume} {id : VolumeId} (named : VolumeId.ofString m.volumeId = .ok id)
      (server : Option ServerId) : Asks c (.controllerUnpublishVolume m) (.detach id server)
  | resize {m : Message.ControllerExpandVolume} {id : VolumeId} {least most : UInt64}
      (named : VolumeId.ofString m.volumeId = .ok id)
      (bounds : CapacityRange.sizeBounds m.capacityRange = some (least, most)) :
      Asks c (.controllerExpandVolume m) (.resize id least)

/-- A call of the controller asks its gateway for nothing else than is said of it. -/
theorem only_serve (c : Controller) (call : ControllerCall) : (c.service.serve call).Only (c.Asks call) := by
  cases call with
  | createVolume m =>
    refine only_respond fun r hr => (only_createVolume c r).mono ?_
    rintro d ⟨o, ho, rfl⟩
    exact .create hr ho
  | deleteVolume m =>
    refine only_respond fun r hr => (only_deleteVolume r).mono ?_
    rintro d ⟨id, hid, rfl⟩
    rw [Request.DeleteVolume.of_ofMessage hr] at hid
    exact .delete hid
  | controllerPublishVolume m =>
    refine only_respond fun r hr => (only_publishVolume r).mono ?_
    rintro d (hd | ⟨id, server, hid, hserver, rfl⟩)
    · exact .looks hd
    · obtain ⟨hvolume, hnode⟩ := Request.ControllerPublishVolume.of_ofMessage hr
      rw [hvolume] at hid
      rw [hnode] at hserver
      exact .attach hid hserver
  | controllerUnpublishVolume m =>
    refine only_respond fun r hr => (only_unpublishVolume r).mono ?_
    rintro d ⟨id, server, hid, rfl⟩
    rw [Request.ControllerUnpublishVolume.of_ofMessage hr] at hid
    exact .detach hid server
  | validateVolumeCapabilities m => exact only_respond fun r _ => (looks_validateCapabilities r).mono fun _ hd => .looks hd
  | listVolumes m => exact only_respond fun r _ => (looks_listVolumes r).mono fun _ hd => .looks hd
  | controllerExpandVolume m =>
    refine only_respond fun r hr => (only_expandVolume r).mono ?_
    rintro d (hd | ⟨id, least, most, hid, hbounds, rfl⟩)
    · exact .looks hd
    · obtain ⟨hvolume, hrange⟩ := Request.ControllerExpandVolume.of_ofMessage hr
      rw [hvolume] at hid
      rw [hrange] at hbounds
      exact .resize hid hbounds
  | _ => trivial

/-- What a call makes of the gateway below the idempotent layer. -/
theorem only_program (c : Controller) (call : ControllerCall) :
    (c.program call).Only fun e => ∃ d, c.Asks call d ∧ d.Becomes e :=
  (only_serve c call).through fun d hd => (Idempotent.only_layer d).mono fun _ he => ⟨d, hd, he⟩

/-! ## Calls at once -/

/-- What the service ensures of its answers, a call ensures of what they are delivered as. -/
theorem ensures_respond {T : Terms} {ρ α β : Type} (request : Except Status ρ)
    {service : ρ → Program gateway (Except Refusal α)} (reply : α → Except Status β)
    {post : ρ → Except Refusal α → List (Exchange gateway) → FaultyStore → Prop} {xs : List (Exchange gateway)} {s : FaultyStore}
    (h : ∀ r, request = .ok r → T.Ensures (post r) ((service r).through Idempotent.layer) xs s) :
    T.Ensures (fun answer ys t => (∃ e, request = .error e ∧ answer = .error e) ∨
        ∃ r x, request = .ok r ∧ post r x ys t ∧ answer = deliver reply x)
      ((respond Refusal.status request service reply).through Idempotent.layer) xs s := by
  rw [through_respond]
  cases request with
  | error e => exact fun t _ => Or.inl ⟨e, rfl, rfl⟩
  | ok r => exact (h r rfl).bind fun x ys t hx u hu => Or.inr ⟨r, x, rfl, hx u hu, rfl⟩

end Controller

end VolumeDriver
