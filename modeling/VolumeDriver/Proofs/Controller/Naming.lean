import VolumeDriver.Proofs.Controller.Capabilities
import VolumeDriver.Proofs.Decimal

/-!
# Which texts name a volume

A volume is told by the decimal form of its identifier, and named in five calls by a text. A call that is in order beside that text
asks the gateway about the volume of the identifier that is read from it, and about no other (`Conduct`). Identifiers are read from
their decimal forms, but also from these behind zeros or a plus sign, so a volume has more names than the one it is told by
(`Controller.spellings_address`). A text that no identifier is read from is that of a missing volume, and nothing is asked.
-/

namespace VolumeDriver

open Csi Program

/-- The identifier of the volume that a call of the gateway is about, if it is about one by its identifier. -/
def GatewayCall.named : GatewayCall → Option VolumeId
  | .getById id | .delete id | .attach id _ | .detach id _ | .resize id _ => some id
  | .create _ | .getByName _ | .all => none

/-! ## Programs about one volume -/

/-- The program makes a call, and every call that it can make is about the volume. -/
structure Program.Concerns {α : Type} (id : VolumeId) (p : Program gateway α) : Prop where
  calls : ∃ d next, p = .call d next
  only : p.Only fun d : GatewayCall => d.named = some id

namespace Program.Concerns

variable {α β : Type} {id : VolumeId} {p : Program gateway α}

/-- What follows a program about a volume may be any calls about it. -/
theorem bind (h : p.Concerns id) {f : α → Program gateway β} (hf : ∀ a, (f a).Only fun d : GatewayCall => d.named = some id) :
    (p.bind f).Concerns id := by
  obtain ⟨d, next, rfl⟩ := h.calls
  exact ⟨⟨d, _, rfl⟩, h.only.bind hf⟩

/-- A run asks about the volume, and about no other. -/
theorem named_iff (h : p.Concerns id) (s : FaultyStore) {other : VolumeId} :
    (∃ x ∈ p.exchanges FaultyStore.answer s, x.1.named = some other) ↔ other = id := by
  constructor
  · rintro ⟨x, hx, hnamed⟩
    exact Option.some.inj (hnamed.symm.trans (h.only.exchanges _ s x hx))
  · rintro rfl
    obtain ⟨d, next, rfl⟩ := h.calls
    exact ⟨_, List.mem_cons_self, h.only.1⟩

end Program.Concerns

/-- What a call about a volume becomes is about that volume. -/
theorem Idempotent.concerns_layer {d : GatewayCall} {id : VolumeId} (h : d.named = some id) : (layer d).Concerns id := by
  cases d with
  | getById _ => exact ⟨⟨_, _, rfl⟩, only_ask h⟩
  | resize _ _ => exact ⟨⟨_, _, rfl⟩, only_ask h⟩
  | delete _ =>
    refine ⟨⟨_, _, rfl⟩, (only_delete _).mono ?_⟩
    rintro d (rfl | rfl) <;> exact h
  | attach _ _ =>
    refine ⟨⟨_, _, rfl⟩, Only.bind (only_ask h) fun r => ?_⟩
    split
    · trivial
    · refine Only.bind (only_ask h) fun found => ?_
      split <;> trivial
  | detach _ _ =>
    refine ⟨⟨_, _, rfl⟩, (only_detach _ _).mono ?_⟩
    rintro d rfl
    exact h
  | create _ => cases h
  | getByName _ => cases h
  | all => cases h

/-- What other calls become names no volume either. -/
theorem Idempotent.unnamed_layer {d : GatewayCall} (h : d.named = none) :
    (layer d).Only fun d : GatewayCall => d.named = none := by
  cases d with
  | create _ =>
    refine Only.bind (only_ask rfl) fun r => ?_
    split
    · refine Only.bind (only_ask rfl) fun found => ?_
      split <;> trivial
    · trivial
  | getByName _ => exact only_ask rfl
  | all => exact only_ask rfl
  | _ => cases h

/-- A program about a volume is about it below the idempotent layer too. -/
theorem Program.Concerns.through {α : Type} {id : VolumeId} {p : Program gateway α} (h : p.Concerns id) :
    (p.through Idempotent.layer).Concerns id := by
  obtain ⟨d, next, rfl⟩ := h.calls
  exact (Idempotent.concerns_layer h.only.1).bind fun r =>
    Only.through (h.only.2 r) fun d hd => (Idempotent.concerns_layer hd).only

/-! ## Calls that name a volume -/

namespace Csi.ControllerCall

/-- The call with a text in the place of the one by which it names a volume, if it is one of the five that name a volume. -/
def naming (text : String) : ControllerCall → ControllerCall
  | deleteVolume m => deleteVolume { m with volumeId := text }
  | controllerPublishVolume m => controllerPublishVolume { m with volumeId := text }
  | controllerUnpublishVolume m => controllerUnpublishVolume { m with volumeId := text }
  | validateVolumeCapabilities m => validateVolumeCapabilities { m with volumeId := text }
  | controllerExpandVolume m => controllerExpandVolume { m with volumeId := text }
  | other => other

/-- The call names a volume, and all that is looked at before the text that names it is in order. -/
def Admitted : ControllerCall → Prop
  | deleteVolume _ | controllerUnpublishVolume _ => True
  | controllerPublishVolume m =>
    m.nodeId ≠ "" ∧ m.readonly = false ∧ ∃ cap, m.volumeCapability = some cap ∧ cap.Complete ∧ cap.Offered
  | validateVolumeCapabilities m => m.volumeCapabilities ≠ [] ∧ ∀ cap ∈ m.volumeCapabilities, cap.Complete
  | controllerExpandVolume m => ∀ cap ∈ m.volumeCapability, cap.Complete
  | _ => False

/-- What is looked at behind that text is in order too. -/
def Resolved : ControllerCall → Prop
  | controllerPublishVolume m => ∃ server, ServerId.ofString m.nodeId = .ok server
  | controllerUnpublishVolume m => m.nodeId = "" ∨ ∃ server, ServerId.ofString m.nodeId = .ok server
  | controllerExpandVolume m => ∃ bounds, CapacityRange.sizeBounds m.capacityRange = some bounds
  | _ => True

/-- What is answered if there is no volume of that name: it is deleted already, or not found. -/
def missing (text : String) : ControllerCall → Except Status ControllerReply
  | deleteVolume _ => .ok .deleted
  | _ => .error (Controller.volumeMissing text).status

end Csi.ControllerCall

namespace Controller

variable {c : Controller} {id : VolumeId} {text : String}

/-! ## The services -/

/-- A deletion is about the volume whose identifier is read. -/
theorem concerns_deleteVolume {r : Request.DeleteVolume} (hid : VolumeId.ofString r.volumeId = .ok id) : (deleteVolume r).Concerns id := by
  rw [deleteVolume, hid]
  refine ⟨⟨_, _, rfl⟩, Only.bind (only_ask rfl) fun answer => ?_⟩
  split <;> trivial

/-- A volume that may be published to a node is asked about once its identifier and the node are read. -/
theorem concerns_publishVolume {r : Request.ControllerPublishVolume} (hwritable : r.readonly = false)
    (hsupported : supports r.volumeCapability = true) (hid : VolumeId.ofString r.volumeId = .ok id) {server : ServerId}
    (hserver : ServerId.ofString r.nodeId = .ok server) : (publishVolume r).Concerns id := by
  rw [publishVolume, hwritable, hsupported, hid, hserver]
  refine ⟨⟨_, _, rfl⟩, Only.bind (only_ask rfl) fun answer => ?_⟩
  split
  · trivial
  · refine Only.bind (only_ask rfl) fun found => ?_
    split <;> trivial

/-- A volume is asked about for its withdrawal once its identifier and the node, if one is named, are read. -/
theorem concerns_unpublishVolume {r : Request.ControllerUnpublishVolume} (hid : VolumeId.ofString r.volumeId = .ok id)
    {server : Option ServerId} (hserver : namedServer r.nodeId = .ok server) : (unpublishVolume r).Concerns id := by
  rw [unpublishVolume, hid, hserver]
  refine ⟨⟨_, _, rfl⟩, Only.bind (only_ask rfl) fun answer => ?_⟩
  split <;> trivial

/-- A validation is about the volume whose identifier is read. -/
theorem concerns_validateCapabilities {r : Request.ValidateVolumeCapabilities} (hid : VolumeId.ofString r.volumeId = .ok id) :
    (validateCapabilities r).Concerns id := by
  rw [validateCapabilities, hid]
  refine ⟨⟨_, _, rfl⟩, Only.bind (only_ask rfl) fun answer => ?_⟩
  split
  · trivial
  · trivial
  · split <;> trivial

/-- An expansion is about the volume whose identifier is read, if the range has bounds. -/
theorem concerns_expandVolume {r : Request.ControllerExpandVolume} (hid : VolumeId.ofString r.volumeId = .ok id)
    {bounds : UInt64 × UInt64} (hbounds : CapacityRange.sizeBounds r.capacityRange = some bounds) : (expandVolume r).Concerns id := by
  rw [expandVolume, hid, hbounds]
  refine ⟨⟨_, _, rfl⟩, Only.bind (only_ask rfl) fun answer => ?_⟩
  split
  case h_3 => trivial
  case h_4 => trivial
  -- grown, or large enough before
  all_goals
    refine Only.bind (only_ask rfl) fun found => ?_
    split <;> trivial

/-- A list names no volume. -/
theorem unnamed_listVolumes (r : Request.ListVolumes) : (listVolumes r).Only fun d : GatewayCall => d.named = none := by
  unfold listVolumes
  split
  · trivial
  · refine Only.bind (only_ask rfl) fun found => ?_
    split <;> trivial

/-! ## The calls -/

/-- What becomes of a call that has a text in the place of the name of its volume. -/
inductive Conduct (call : ControllerCall) (text : String) : Program gateway (Except Status ControllerReply) → Prop
  | apart {p : Program gateway (Except Status ControllerReply)}
      (fault : call.Admitted → text ≠ "" → (∃ id, VolumeId.ofString text = .ok id) ∧ ¬ call.Resolved)
      (only : p.Only fun d : GatewayCall => d.named = none) : Conduct call text p
  | missing (unread : ∀ id, VolumeId.ofString text ≠ .ok id) : Conduct call text (done (call.missing text))
  | concerns {p : Program gateway (Except Status ControllerReply)} {id : VolumeId} (admitted : call.Admitted)
      (resolved : call.Resolved) (named : VolumeId.ofString text = .ok id) (about : p.Concerns id) : Conduct call text p

/-- A call whose message is no request has a fault, and otherwise the service decides. -/
theorem conduct_respond {ρ α : Type} {valid : Prop} {post : ρ → Prop} {request : Except Status ρ} (hchecks : Checks valid post request)
    {service : ρ → Program gateway (Except Refusal α)} {reply : α → Except Status ControllerReply} {call : ControllerCall}
    (hfault : ¬ valid → call.Admitted → text = "")
    (hservice : ∀ r, valid → post r → Conduct call text (((service r).through Idempotent.layer).bind fun x => done (deliver reply x))) :
    Conduct call text ((respond Refusal.status request service reply).through Idempotent.layer) := by
  rw [through_respond]
  cases hchecks with
  | accepted hvalid r hr => exact hservice r hvalid hr
  | refused hvalid problem => exact .apart (fun hadmitted htext => absurd (hfault hvalid hadmitted) htext) trivial

/-- Of a text that cannot be read no identifier is read. -/
theorem unread_of_error {e : Text.NumberError} (h : VolumeId.ofString text = .error e) (id : VolumeId) :
    VolumeId.ofString text ≠ .ok id := by
  rw [h]
  rintro ⟨⟩

/-- A deletion has no other faults than the text itself. -/
theorem conduct_deleteVolume (c : Controller) (m : Message.DeleteVolume) (text : String) :
    Conduct (.deleteVolume m) text (c.program (.deleteVolume { m with volumeId := text })) := by
  refine conduct_respond (Request.DeleteVolume.checks_ofMessage _) (fun hvalid _ => not_not.1 hvalid) fun r _ hconveys => ?_
  have hvolume : r.volumeId = text := hconveys.volumeId
  dsimp only [service]
  cases hid : VolumeId.ofString text with
  | error e =>
    rw [deleteVolume, hvolume, hid]
    exact .missing (unread_of_error hid)
  | ok id => exact .concerns trivial trivial hid ((concerns_deleteVolume (hvolume ▸ hid)).through.bind fun _ => trivial)

/-- Before the text is read, a publication looks at the node, the access and the capability, and behind it at the server. -/
theorem conduct_publishVolume (c : Controller) (m : Message.ControllerPublishVolume) (text : String) :
    Conduct (.controllerPublishVolume m) text (c.program (.controllerPublishVolume { m with volumeId := text })) := by
  refine conduct_respond (Request.ControllerPublishVolume.checks_ofMessage _) (fun hvalid hadmitted => ?_) fun r hvalid hconveys => ?_
  · obtain ⟨hnode, _, cap, hcap, hcomplete, _⟩ := hadmitted
    exact not_not.1 fun htext => hvalid ⟨htext, hnode, cap, hcap, hcomplete⟩
  obtain ⟨_, hnode, cap, hcap, hcomplete⟩ := hvalid
  have hvolume : r.volumeId = text := hconveys.volumeId
  have hserver : r.nodeId = m.nodeId := hconveys.nodeId
  have hreadonly : r.readonly = m.readonly := hconveys.readonly
  have hcap : m.volumeCapability = some cap := hcap
  have hone : r.volumeCapability.Conveys cap := by
    have hrel : Option.Rel VolumeCapability.Conveys (some r.volumeCapability) m.volumeCapability := hconveys.volumeCapability
    rw [hcap] at hrel
    cases hrel with
    | some h => exact h
  have hoffered := supports_iff hone
  dsimp only [service]
  by_cases hwritable : m.readonly = true
  · rw [publishVolume, hreadonly, if_pos hwritable]
    exact .apart (fun hadmitted _ => by simp [hwritable, ControllerCall.Admitted] at hadmitted) trivial
  by_cases hsupported : supports r.volumeCapability = true
  · have hwritable : m.readonly = false := Bool.not_eq_true _ ▸ hwritable
    have hadmitted : (ControllerCall.controllerPublishVolume m).Admitted :=
      ⟨hnode, hwritable, cap, hcap, hcomplete, hoffered.1 hsupported⟩
    cases hid : VolumeId.ofString text with
    | error e =>
      rw [publishVolume, hreadonly, hwritable, hsupported, hvolume, hid]
      exact .missing (unread_of_error hid)
    | ok id =>
      cases hnamed : ServerId.ofString m.nodeId with
      | error e =>
        rw [publishVolume, hreadonly, hwritable, hsupported, hvolume, hid, hserver, hnamed]
        refine .apart (fun _ _ => ⟨⟨id, hid⟩, ?_⟩) trivial
        rintro ⟨server, hok⟩
        cases hnamed.symm.trans hok
      | ok server =>
        refine .concerns hadmitted ⟨server, hnamed⟩ hid (Program.Concerns.bind ?_ fun _ => trivial)
        exact (concerns_publishVolume (hreadonly.trans hwritable) hsupported (hvolume ▸ hid) (hserver ▸ hnamed)).through
  · rw [publishVolume, hreadonly, if_neg hwritable, if_pos (by simpa using hsupported)]
    refine .apart (fun hadmitted _ => ?_) trivial
    obtain ⟨_, _, cap', hcap', _, hoffered'⟩ := hadmitted
    cases hcap.symm.trans hcap'
    exact absurd (hoffered.2 hoffered') hsupported

/-- The server to detach from is found, if it is not set or an identifier. -/
theorem namedServer_ok_iff {node : Option String} {value : String} (h : ConveysText node value) :
    (∃ server, namedServer node = .ok server) ↔ value = "" ∨ ∃ server, ServerId.ofString value = .ok server := by
  rw [h]
  by_cases hempty : value = ""
  · rw [if_pos hempty]
    exact iff_of_true ⟨none, rfl⟩ (Or.inl hempty)
  · rw [if_neg hempty, or_iff_right hempty, namedServer]
    cases ServerId.ofString value with
    | error e => exact iff_of_false (by rintro ⟨_, ⟨⟩⟩) (by rintro ⟨_, ⟨⟩⟩)
    | ok server => exact iff_of_true ⟨_, rfl⟩ ⟨_, rfl⟩

/-- Behind the text, a withdrawal looks at the server, if one is named. -/
theorem conduct_unpublishVolume (c : Controller) (m : Message.ControllerUnpublishVolume) (text : String) :
    Conduct (.controllerUnpublishVolume m) text (c.program (.controllerUnpublishVolume { m with volumeId := text })) := by
  refine conduct_respond (Request.ControllerUnpublishVolume.checks_ofMessage _) (fun hvalid _ => not_not.1 hvalid) fun r _ hconveys => ?_
  have hvolume : r.volumeId = text := hconveys.volumeId
  have hnode : ConveysText r.nodeId m.nodeId := hconveys.nodeId
  have hresolved := namedServer_ok_iff hnode
  dsimp only [service]
  cases hid : VolumeId.ofString text with
  | error e =>
    rw [unpublishVolume, hvolume, hid]
    exact .missing (unread_of_error hid)
  | ok id =>
    cases hserver : namedServer r.nodeId with
    | error e =>
      rw [unpublishVolume, hvolume, hid, hserver]
      refine .apart (fun _ _ => ⟨⟨id, hid⟩, fun h => ?_⟩) trivial
      obtain ⟨server, hok⟩ := hresolved.2 h
      cases hserver.symm.trans hok
    | ok server =>
      refine .concerns trivial (hresolved.1 ⟨server, hserver⟩) hid (Program.Concerns.bind ?_ fun _ => trivial)
      exact (concerns_unpublishVolume (hvolume ▸ hid) hserver).through

/-- Before the text is read, a validation looks at the capabilities. -/
theorem conduct_validateCapabilities (c : Controller) (m : Message.ValidateVolumeCapabilities) (text : String) :
    Conduct (.validateVolumeCapabilities m) text (c.program (.validateVolumeCapabilities { m with volumeId := text })) := by
  refine conduct_respond (Request.ValidateVolumeCapabilities.checks_ofMessage _) (fun hvalid hadmitted => ?_) fun r hvalid hconveys => ?_
  · exact not_not.1 fun htext => hvalid ⟨htext, hadmitted⟩
  have hvolume : r.volumeId = text := hconveys.volumeId
  dsimp only [service]
  cases hid : VolumeId.ofString text with
  | error e =>
    rw [validateCapabilities, hvolume, hid]
    subst hvolume
    exact .missing (unread_of_error hid)
  | ok id =>
    exact .concerns hvalid.2 trivial hid ((concerns_validateCapabilities (hvolume ▸ hid)).through.bind fun _ => trivial)

/-- Before the text is read, an expansion looks at the capability, and behind it at the range. -/
theorem conduct_expandVolume (c : Controller) (m : Message.ControllerExpandVolume) (text : String) :
    Conduct (.controllerExpandVolume m) text (c.program (.controllerExpandVolume { m with volumeId := text })) := by
  refine conduct_respond (Request.ControllerExpandVolume.checks_ofMessage _) (fun hvalid hadmitted => ?_) fun r hvalid hconveys => ?_
  · exact not_not.1 fun htext => hvalid ⟨htext, hadmitted⟩
  have hvolume : r.volumeId = text := hconveys.volumeId
  have hrange : r.capacityRange = m.capacityRange := hconveys.capacityRange
  dsimp only [service]
  cases hid : VolumeId.ofString text with
  | error e =>
    rw [expandVolume, hvolume, hid]
    exact .missing (unread_of_error hid)
  | ok id =>
    cases hbounds : CapacityRange.sizeBounds m.capacityRange with
    | none =>
      rw [expandVolume, hvolume, hid, hrange, hbounds]
      refine .apart (fun _ _ => ⟨⟨id, hid⟩, ?_⟩) trivial
      rintro ⟨bounds, hsome⟩
      cases hbounds.symm.trans hsome
    | some bounds =>
      refine .concerns hvalid.2 ⟨bounds, hbounds⟩ hid (Program.Concerns.bind ?_ fun _ => trivial)
      exact (concerns_expandVolume (hvolume ▸ hid) (hrange ▸ hbounds)).through

/-- Every call comes to one of the three, whatever the text. -/
theorem conduct (c : Controller) (call : ControllerCall) (text : String) : Conduct call text (c.program (call.naming text)) := by
  cases call with
  | deleteVolume m => exact conduct_deleteVolume c m text
  | controllerPublishVolume m => exact conduct_publishVolume c m text
  | controllerUnpublishVolume m => exact conduct_unpublishVolume c m text
  | validateVolumeCapabilities m => exact conduct_validateCapabilities c m text
  | controllerExpandVolume m => exact conduct_expandVolume c m text
  | createVolume m =>
    refine .apart (fun h => h.elim) ((only_respond fun r _ => ?_).through fun d hd => Idempotent.unnamed_layer hd)
    refine (only_createVolume c r).mono ?_
    rintro d ⟨o, _, rfl⟩
    rfl
  | listVolumes m =>
    refine .apart (fun h => h.elim) ((only_respond fun r _ => ?_).through fun d hd => Idempotent.unnamed_layer hd)
    exact unnamed_listVolumes r
  | _ => exact .apart (fun h => h.elim) trivial

/-! ## Two texts of one identifier -/

/-- The answers are the same, unless they are refusals of their own. -/
def SameUnless {ε α : Type} (e e' : ε) (x y : Except ε α) : Prop := x = y ∨ x = .error e ∧ y = .error e'

/-- Answers that are told by the name that was asked for at most. -/
abbrev SameButName (text other : String) {α : Type} : Except Refusal α → Except Refusal α → Prop :=
  SameUnless (volumeMissing text) (volumeMissing other)

theorem sameUnless_refl {ε α : Type} (e e' : ε) (x : Except ε α) : SameUnless e e' x x := Or.inl rfl

variable {other : String}

/-- A deletion does not tell two texts of one identifier apart. -/
theorem deleteVolume_of_alias {r : Request.DeleteVolume} (hid : VolumeId.ofString r.volumeId = .ok id)
    (hother : VolumeId.ofString other = .ok id) : deleteVolume { r with volumeId := other } = deleteVolume r := by
  rw [deleteVolume, deleteVolume, hid, hother]

/-- A publication does not tell two texts of one identifier apart. -/
theorem publishVolume_of_alias {r : Request.ControllerPublishVolume} (hid : VolumeId.ofString r.volumeId = .ok id)
    (hother : VolumeId.ofString other = .ok id) : publishVolume { r with volumeId := other } = publishVolume r := by
  rw [publishVolume, publishVolume, hid, hother]
  cases ServerId.ofString r.nodeId <;> rfl

/-- A withdrawal does not tell two texts of one identifier apart. -/
theorem unpublishVolume_of_alias {r : Request.ControllerUnpublishVolume} (hid : VolumeId.ofString r.volumeId = .ok id)
    (hother : VolumeId.ofString other = .ok id) : unpublishVolume { r with volumeId := other } = unpublishVolume r := by
  rw [unpublishVolume, unpublishVolume, hid, hother]
  cases namedServer r.nodeId <;> rfl

/-- A validation tells two texts of one identifier apart only where it names a missing volume. -/
theorem alike_validateCapabilities {r : Request.ValidateVolumeCapabilities} (hid : VolumeId.ofString r.volumeId = .ok id)
    (hother : VolumeId.ofString other = .ok id) :
    Alike (SameButName r.volumeId other) (validateCapabilities r) (validateCapabilities { r with volumeId := other }) := by
  rw [validateCapabilities, validateCapabilities, hid, hother]
  refine .call _ fun found => ?_
  rcases found with e | v
  · cases e
    case volumeNotFound => exact .done (Or.inr ⟨rfl, rfl⟩)
    all_goals exact .done (Or.inl rfl)
  · simp only [done_bind]
    split <;> exact .done (Or.inl rfl)

/-- An expansion tells two texts of one identifier apart only where it names a missing volume. -/
theorem alike_expandVolume {r : Request.ControllerExpandVolume} (hid : VolumeId.ofString r.volumeId = .ok id)
    (hother : VolumeId.ofString other = .ok id) :
    Alike (SameButName r.volumeId other) (expandVolume r) (expandVolume { r with volumeId := other }) := by
  rw [expandVolume, expandVolume, hid, hother]
  dsimp only
  cases CapacityRange.sizeBounds r.capacityRange with
  | none => exact .done (Or.inl rfl)
  | some bounds =>
    refine .call _ fun grown => ?_
    -- the volume is looked up when it was grown, and when it was large enough before
    rcases grown with e | _
    on_goal 1 => cases e
    case some.error.volumeNotFound => exact .done (Or.inr ⟨rfl, rfl⟩)
    case some.error.volumeSizeAlreadyReached | some.ok =>
      refine .call _ fun found => ?_
      rcases found with e | v
      · cases e
        case volumeNotFound => exact .done (Or.inr ⟨rfl, rfl⟩)
        all_goals exact .done (Or.inl rfl)
      · exact .done (Or.inl rfl)
    all_goals exact .done (Or.inl rfl)

/-- A text that is not empty passes. -/
theorem require_of_ne {value problem : String} (h : value ≠ "") : Request.require value problem = .ok value :=
  if_neg (mt String.isEmpty_iff.1 h)

/-- Requests that differ in the name alone are answered alike, if the service does so. -/
theorem alike_respond {ρ α : Type} {request request' : Except Status ρ} {g : ρ → ρ} (hrequest : request' = g <$> request)
    {service : ρ → Program gateway (Except Refusal α)} {reply : α → Except Status ControllerReply}
    (hservice : ∀ r, request = .ok r → Alike (SameButName text other) (service r) (service (g r))) :
    Alike (SameUnless (volumeMissing text).status (volumeMissing other).status)
      ((respond Refusal.status request service reply).through Idempotent.layer)
      ((respond Refusal.status request' service reply).through Idempotent.layer) := by
  rw [through_respond, through_respond, hrequest]
  cases request with
  | error e => exact .done (Or.inl rfl)
  | ok r =>
    refine ((hservice r rfl).through _).bind fun x y h => .done ?_
    rcases h with rfl | ⟨rfl, rfl⟩
    · exact Or.inl rfl
    · exact Or.inr ⟨rfl, rfl⟩

/-- Two texts of one identifier are answered alike, in every call, but for the name of a missing volume. -/
theorem alike_naming (c : Controller) (call : ControllerCall) (hid : VolumeId.ofString text = .ok id)
    (hother : VolumeId.ofString other = .ok id) :
    Alike (SameUnless (volumeMissing text).status (volumeMissing other).status) (c.program (call.naming text))
      (c.program (call.naming other)) := by
  have htext : text ≠ "" := by
    rintro rfl
    cases hid
  have hother' : other ≠ "" := by
    rintro rfl
    cases hother
  cases call with
  | deleteVolume m =>
    refine alike_respond (g := fun r => { r with volumeId := other }) ?_ fun r hr => ?_
    · simp only [Request.DeleteVolume.ofMessage, require_of_ne htext, require_of_ne hother']
      rfl
    · dsimp only [service]
      have hvolume := Request.DeleteVolume.of_ofMessage hr
      rw [deleteVolume_of_alias (hvolume ▸ hid) hother]
      exact .refl (sameUnless_refl _ _) _
  | controllerPublishVolume m =>
    refine alike_respond (g := fun r => { r with volumeId := other }) ?_ fun r hr => ?_
    · simp only [Request.ControllerPublishVolume.ofMessage, require_of_ne htext, require_of_ne hother']
      cases Request.require m.nodeId _ <;> cases Request.requireCapability m.volumeCapability _ <;> rfl
    · dsimp only [service]
      have hvolume := (Request.ControllerPublishVolume.of_ofMessage hr).1
      rw [publishVolume_of_alias (hvolume ▸ hid) hother]
      exact .refl (sameUnless_refl _ _) _
  | controllerUnpublishVolume m =>
    refine alike_respond (g := fun r => { r with volumeId := other }) ?_ fun r hr => ?_
    · simp only [Request.ControllerUnpublishVolume.ofMessage, require_of_ne htext, require_of_ne hother']
      rfl
    · dsimp only [service]
      have hvolume := Request.ControllerUnpublishVolume.of_ofMessage hr
      rw [unpublishVolume_of_alias (hvolume ▸ hid) hother]
      exact .refl (sameUnless_refl _ _) _
  | validateVolumeCapabilities m =>
    refine alike_respond (g := fun r => { r with volumeId := other }) ?_ fun r hr => ?_
    · simp only [Request.ValidateVolumeCapabilities.ofMessage, require_of_ne htext, require_of_ne hother']
      cases m.volumeCapabilities.isEmpty <;> cases Request.capabilities m.volumeCapabilities <;> rfl
    · have hvolume : r.volumeId = text := ((Request.ValidateVolumeCapabilities.checks_ofMessage _).post_of_ok hr).volumeId
      rw [← hvolume]
      exact alike_validateCapabilities (hvolume ▸ hid) hother
  | controllerExpandVolume m =>
    refine alike_respond (g := fun r => { r with volumeId := other }) ?_ fun r hr => ?_
    · simp only [Request.ControllerExpandVolume.ofMessage, require_of_ne htext, require_of_ne hother']
      cases Request.optionalCapability m.volumeCapability <;> rfl
    · have hvolume : r.volumeId = text := (Request.ControllerExpandVolume.of_ofMessage hr).1
      rw [← hvolume]
      exact alike_expandVolume (hvolume ▸ hid) hother
  | _ => exact .refl (sameUnless_refl _ _) _

/-- A call of the gateway is about the volume. -/
def Addresses (c : Controller) (call : ControllerCall) (id : VolumeId) (s : FaultyStore) : Prop :=
  ∃ x ∈ (c.program call).exchanges FaultyStore.answer s, x.1.named = some id

/-- A call is about a volume exactly if it is in order beside the text that names a volume, and the text spells its identifier. -/
theorem addresses_iff (c : Controller) (call : ControllerCall) (text : String) (id : VolumeId) (s : FaultyStore) :
    c.Addresses (call.naming text) id s ↔ (call.Admitted ∧ call.Resolved) ∧ id.SpelledBy text := by
  rw [← VolumeId.ofString_ok_iff, Addresses]
  have hconduct := c.conduct call text
  generalize c.program (call.naming text) = p at hconduct ⊢
  cases hconduct with
  | apart fault only =>
    refine iff_of_false ?_ ?_
    · rintro ⟨x, hx, hnamed⟩
      cases (only.exchanges _ s x hx).symm.trans hnamed
    · rintro ⟨⟨hadmitted, hresolved⟩, hid⟩
      refine (fault hadmitted ?_).2 hresolved
      rintro rfl
      cases hid
  | missing unread =>
    refine iff_of_false ?_ fun h => unread id h.2
    rintro ⟨x, hx, _⟩
    cases hx
  | concerns admitted resolved named about =>
    rw [about.named_iff s, named, Except.ok.injEq, and_iff_right ⟨admitted, resolved⟩, eq_comm]

/-- A text that spells no identifier is answered without a call of the gateway. -/
theorem run_missing (c : Controller) {call : ControllerCall} (hadmitted : call.Admitted) (htext : text ≠ "")
    (hunread : ∀ id : VolumeId, ¬ id.SpelledBy text) (s : FaultyStore) :
    (c.program (call.naming text)).run FaultyStore.answer s = (call.missing text, s) := by
  have hconduct := c.conduct call text
  generalize c.program (call.naming text) = p at hconduct ⊢
  cases hconduct with
  | apart fault only =>
    obtain ⟨⟨id, hid⟩, _⟩ := fault hadmitted htext
    exact absurd (VolumeId.ofString_ok_iff.1 hid) (hunread id)
  | missing unread => rfl
  | @concerns p id admitted resolved named about => exact absurd (VolumeId.ofString_ok_iff.1 named) (hunread id)

/-- A volume is reached by the spellings of its identifier and by no other text. The text that it is told by is one of them, and the
only one without a plus sign and needless zeros; with any other the same is done, and told but for the name of a volume that is
missing. A text that spells no identifier is answered as that of a missing volume, and nothing is asked. -/
theorem spellings_address (c : Controller) (call : ControllerCall) (text : String) (s : FaultyStore) :
    let program (name : String) := c.program (call.naming name)
    (∀ id, c.Addresses (call.naming text) id s ↔ (call.Admitted ∧ call.Resolved) ∧ id.SpelledBy text) ∧
      (∀ v context, call.Admitted → call.Resolved → c.Addresses (call.naming (describe v context).volumeId) v.id s) ∧
      (∀ id : VolumeId, id.SpelledBy text →
        (text = toString id ↔ Text.Undecorated text.toList) ∧
        (program text).exchanges FaultyStore.answer s = (program (toString id)).exchanges FaultyStore.answer s ∧
        ((program text).run FaultyStore.answer s).2 = ((program (toString id)).run FaultyStore.answer s).2 ∧
        SameUnless (volumeMissing text).status (volumeMissing (toString id)).status ((program text).run FaultyStore.answer s).1
          ((program (toString id)).run FaultyStore.answer s).1) ∧
      (call.Admitted → text ≠ "" → (∀ id : VolumeId, ¬ id.SpelledBy text) →
        (program text).run FaultyStore.answer s = (call.missing text, s)) := by
  refine ⟨fun id => c.addresses_iff call text id s, fun v context hadmitted hresolved => ?_, fun id hid => ?_,
    fun hadmitted htext hunread => c.run_missing hadmitted htext hunread s⟩
  · have htold : v.id.SpelledBy (describe v context).volumeId := VolumeId.ofString_ok_iff.1 (VolumeId.ofString_toString v.id)
    exact (c.addresses_iff call _ v.id s).2 ⟨⟨hadmitted, hresolved⟩, htold⟩
  · have halike := c.alike_naming call (VolumeId.ofString_ok_iff.2 hid) (VolumeId.ofString_toString id)
    exact ⟨hid.eq_toString_iff, halike.run FaultyStore.answer s⟩

/-- A request to delete a volume by its name. -/
def deletionOf (name : String) : ControllerCall := .deleteVolume { volumeId := name }

/-- Two more names of the volume of `holdingVolume`, and a text that is the name of none. -/
theorem spellings_address_held :
    let c : Controller := ⟨"fsn1", .empty⟩
    (∃ id : VolumeId, id.SpelledBy "+07") ∧ c.Addresses (deletionOf "+07") ⟨7⟩ holdingVolume ∧
      c.Addresses (deletionOf "7") ⟨7⟩ holdingVolume ∧ ¬ c.Addresses (deletionOf "0x7") ⟨7⟩ holdingVolume ∧
      (c.program (deletionOf "0x7")).run FaultyStore.answer holdingVolume = (.ok .deleted, holdingVolume) := by
  intro c
  have hspelt : VolumeId.SpelledBy ⟨7⟩ "+07" := VolumeId.ofString_ok_iff.1 rfl
  have hunspelt : ∀ id : VolumeId, ¬ id.SpelledBy "0x7" := by
    intro id hid
    cases VolumeId.ofString_ok_iff.2 hid
  have hplus := spellings_address c (deletionOf "7") "+07" holdingVolume
  have hhex := spellings_address c (deletionOf "7") "0x7" holdingVolume
  refine ⟨⟨_, hspelt⟩, (hplus.1 ⟨7⟩).2 ⟨⟨trivial, trivial⟩, hspelt⟩, ?_, ?_, ?_⟩
  · exact hplus.2.1 ⟨⟨7⟩, "a", 15, "fsn1", "", none⟩ .empty trivial trivial
  · exact fun h => hunspelt _ ((hhex.1 ⟨7⟩).1 h).2
  · exact hhex.2.2.2 trivial (by decide) hunspelt

/-- By a name that it was never told by, a volume is deleted. -/
theorem alias_deletes :
    let c : Controller := ⟨"fsn1", .empty⟩
    let deletion := (c.program (deletionOf "007")).run FaultyStore.answer holdingVolume
    "007" ≠ toString (⟨7⟩ : VolumeId) ∧ (holdingVolume.store.volumes.get? ⟨7⟩).isSome = true ∧
      c.Addresses (deletionOf "007") ⟨7⟩ holdingVolume ∧ deletion.1 = .ok .deleted ∧ deletion.2.store.volumes.get? ⟨7⟩ = none :=
  ⟨by decide, rfl, ⟨_, List.mem_cons_self, rfl⟩, rfl, rfl⟩

end Controller

end VolumeDriver
