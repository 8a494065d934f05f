import VolumeDriver.Proofs.Controller.Capacity

/-!
# One judgement of capabilities

Whether a volume can be had with a capability is judged in three calls: when capabilities are validated, when a volume is created and
when it is published. Each goes by the mode alone, whose number must be that of a writer on a single node or of several writers on it
(`Message.VolumeCapability.Offered`), so the three agree, and capabilities that are confirmed are told back as they were asked for
(`Controller.capability_gates_agree`).
-/

namespace VolumeDriver

open Csi Program

namespace Csi

/-- The number of the mode is that of a single writer on a single node, or of several. -/
def Message.VolumeCapability.Offered (m : VolumeCapability) : Prop := m.mode = some 1 ∨ m.mode = some 7

end Csi

namespace Controller

variable {c : Controller} {cap : VolumeCapability} {caps : List VolumeCapability} {m : Message.VolumeCapability}
  {ms : List Message.VolumeCapability}

/-! ## Capabilities and their messages -/

/-- A mode is supported if its number in the message is that of a supported mode. -/
theorem supports_iff (h : cap.Conveys m) : supports cap = true ↔ m.Offered := by
  obtain ⟨n, hn, hnumber | ⟨hunknown, hnone⟩⟩ := h.mode
  · subst hnumber
    rw [supports, Message.VolumeCapability.Offered, hn]
    cases cap.mode <;> decide
  · -- a number that is no mode's is not that of a supported one
    have hone : n ≠ 1 := fun h => hnone .singleNodeWriter h.symm
    have hseven : n ≠ 7 := fun h => hnone .singleNodeMultiWriter h.symm
    simp [supports, Message.VolumeCapability.Offered, hn, hunknown, hone, hseven]

/-- All capabilities of a request are supported if those of its message are offered. -/
theorem all_supports_iff (h : List.Forall₂ VolumeCapability.Conveys caps ms) :
    caps.all supports = true ↔ ∀ m ∈ ms, m.Offered := by
  induction h with
  | nil => simp
  | cons hhead _ ih => rw [List.all_cons, Bool.and_eq_true, supports_iff hhead, ih, List.forall_mem_cons]

/-- A supported capability is told back as it was asked for. Of others the number of the mode may be lost. -/
theorem toMessage_of_supported (h : cap.Conveys m) (hsupported : supports cap = true) : cap.toMessage = m := by
  obtain ⟨n, hn, hmeans⟩ := h.mode
  obtain ⟨wire, hwire, haccess⟩ := h.access
  have hnumber : cap.mode.number = n := by
    rcases hmeans with hnumber | ⟨hunknown, _⟩
    · exact hnumber
    · simp [supports, hunknown] at hsupported
  rw [VolumeCapability.toMessage, hnumber, AccessType.toMessage_of_conveys haccess, ← hn, ← hwire]

/-- Supported capabilities are told back in a row as they were asked for. -/
theorem map_toMessage_of_supported (h : List.Forall₂ VolumeCapability.Conveys caps ms) (hsupported : caps.all supports = true) :
    caps.map VolumeCapability.toMessage = ms := by
  induction h with
  | nil => rfl
  | cons hhead _ ih =>
    rw [List.all_cons, Bool.and_eq_true] at hsupported
    rw [List.map_cons, toMessage_of_supported hhead hsupported.1, ih hsupported.2]

/-! ## Calls that are refused for a capability -/

/-- What is answered when a capability is not supported. -/
def unsupportedCapability : Status := .invalidArgument "volume capability is not supported"

/-- The call is refused for a capability that it asks for. -/
def RefusesCapability (c : Controller) (call : ControllerCall) (s : FaultyStore) : Prop :=
  ((c.program call).run FaultyStore.answer s).1 = .error unsupportedCapability

/-- The answer of a service is no refusal of a capability. -/
def Content {α : Type} (answer : Except Refusal α) : Prop := ∀ e : Refusal, answer = .error e → e.status ≠ unsupportedCapability

/-- A success refuses no capability. -/
theorem content_ok {α : Type} (a : α) : Content (.ok a) := nofun

/-- A failure of another status refuses no capability. -/
theorem content_error {α : Type} {e : Refusal} (h : e.status ≠ unsupportedCapability) : Content (.error e : Except Refusal α) := by
  rintro _ ⟨⟩
  exact h

/-- No reason to refuse a call is told as an invalid argument. -/
theorem content_because {α : Type} (reason : Reason) (detail : String) :
    Content (.error (.because reason detail) : Except Refusal α) :=
  content_error fun h => by
    replace h : reason.code = .invalidArgument := congrArg Status.code h
    cases reason <;> cases h

/-- An internal failure refuses no capability. -/
theorem content_internal {α : Type} (message : String) : Content (.error (.other (.internal message)) : Except Refusal α) :=
  content_error fun h => nomatch congrArg Status.code h

/-- No options are made of a request with a capability that is not supported. -/
theorem createOptions_unsupported {r : Request.CreateVolume} (h : r.volumeCapabilities.all supports = false) :
    c.createOptions r = .error (.other unsupportedCapability) := by
  simp [createOptions, h, unsupportedCapability]

/-- If its capabilities are supported, a request may have other faults, but is not refused for these. -/
theorem content_createOptions {r : Request.CreateVolume} (h : r.volumeCapabilities.all supports = true) : Content (c.createOptions r) := by
  rw [createOptions, h, if_neg (by decide)]
  split
  · exact content_because _ _
  · split
    · rename_i e _
      -- another problem is told
      refine content_error fun h => ?_
      have htext := congrArg (fun s : Status => s.message.toList.head?) h
      simp [Refusal.status, Status.invalidArgument, unsupportedCapability] at htext
    · exact content_ok _

/-- If its capabilities are supported, the creation of a volume is refused for something else, if at all. -/
theorem content_createVolume {r : Request.CreateVolume} (h : r.volumeCapabilities.all supports = true) :
    (c.createVolume r).Yields (fun _ _ => True) Content := by
  have hoptions := content_createOptions (c := c) h
  unfold createVolume
  split
  · rename_i e he
    rw [he] at hoptions
    exact content_error (hoptions e rfl)
  · intro answer _
    cases answer with
    | ok v => exact content_ok _
    | error e =>
      cases e with
      | volumeAlreadyExists => exact content_because _ _
      | _ => exact content_internal _

/-- A failure of the gateway is no refusal of a capability. -/
theorem content_publishRefusal {α : Type} (e : VolumeError) : Content (.error (publishRefusal e) : Except Refusal α) := by
  cases e <;> first | exact content_because _ _ | exact content_internal _

/-- If its capability is supported and it may be written to, a volume is refused to a node for something else, if at all. -/
theorem content_publishVolume {r : Request.ControllerPublishVolume} (hwritable : r.readonly = false)
    (h : supports r.volumeCapability = true) : (publishVolume r).Yields (fun _ _ => True) Content := by
  rw [publishVolume, hwritable, h, if_neg Bool.false_ne_true, if_neg (by decide)]
  split
  · exact content_because _ _
  · exact content_because _ _
  · intro answer _
    cases answer with
    | error e => exact content_publishRefusal e
    | ok _ =>
      intro found _
      cases found with
      | error e => exact content_publishRefusal e
      | ok v => exact content_ok _

/-! ## The calls -/

/-- What is told of an answer that refuses no capability refuses none either. -/
theorem deliver_ne_of_content {α β : Type} {reply : α → Except Status β} {answer : Except Refusal α} (h : Content answer)
    (hreply : ∀ a, reply a ≠ .error unsupportedCapability) : deliver reply answer ≠ .error unsupportedCapability := by
  cases answer with
  | ok a => exact hreply a
  | error e => exact fun hrefused => h e rfl (Except.error.inj hrefused)

/-- A volume that cannot be told of is out of range. -/
theorem created_ne (v : VolumeInfo) : (ControllerReply.created <$> v.toMessage) ≠ .error unsupportedCapability := by
  rw [VolumeInfo.toMessage, wireBytes]
  split
  · intro h
    cases congrArg Status.code (Except.error.inj h)
  · intro h
    cases h

/-- A creation is refused for a capability if not all that it asks for are offered. -/
theorem refuses_creation_iff {m : Message.CreateVolume} (hm : m.WellFormed) (s : FaultyStore) :
    c.RefusesCapability (.createVolume m) s ↔ ¬ ∀ cap ∈ m.volumeCapabilities, cap.Offered := by
  obtain ⟨r, hr⟩ := (Request.CreateVolume.checks_ofMessage m).ok_iff.2 hm
  have hconveys := (Request.CreateVolume.checks_ofMessage m).post_of_ok hr
  rw [← all_supports_iff hconveys.volumeCapabilities, RefusesCapability, program, ControllerService.serve, run_respond, hr]
  dsimp only [service]
  cases hall : r.volumeCapabilities.all supports with
  | false =>
    rw [createVolume_of_error (createOptions_unsupported hall)]
    exact iff_of_true rfl Bool.false_ne_true
  | true => exact iff_of_false (deliver_ne_of_content ((content_createVolume hall).run_through s) created_ne) (not_not_intro rfl)

/-- So is a publication that may write, if the one capability that it asks for is not. -/
theorem refuses_publication_iff {p : Message.ControllerPublishVolume} (hp : p.WellFormed) (hwritable : p.readonly = false)
    {cap : Message.VolumeCapability} (hcap : p.volumeCapability = some cap) (s : FaultyStore) :
    c.RefusesCapability (.controllerPublishVolume p) s ↔ ¬ cap.Offered := by
  obtain ⟨r, hr⟩ := (Request.ControllerPublishVolume.checks_ofMessage p).ok_iff.2 hp
  have hconveys := (Request.ControllerPublishVolume.checks_ofMessage p).post_of_ok hr
  have hone : r.volumeCapability.Conveys cap := by
    have hrel := hconveys.volumeCapability
    rw [hcap] at hrel
    cases hrel with
    | some h => exact h
  have hreadonly : r.readonly = false := hconveys.readonly.trans hwritable
  rw [← supports_iff hone, RefusesCapability, program, ControllerService.serve, run_respond, hr]
  dsimp only [service]
  cases hsupported : supports r.volumeCapability with
  | false =>
    have hrefused : publishVolume r = done (.error (.other unsupportedCapability)) := by
      simp [publishVolume, hreadonly, hsupported, unsupportedCapability]
    rw [hrefused]
    exact iff_of_true rfl Bool.false_ne_true
  | true =>
    have hcontent : Content (((publishVolume r).through Idempotent.layer).run FaultyStore.answer s).1 :=
      (content_publishVolume hreadonly hsupported).run_through s
    exact iff_of_false (deliver_ne_of_content hcontent nofun) (not_not_intro rfl)

/-- What is answered to a validation of capabilities that are offered: what was asked. -/
def confirming (m : Message.ValidateVolumeCapabilities) : Message.Validation :=
  ⟨some ⟨m.volumeContext, m.volumeCapabilities, m.parameters⟩, ""⟩

/-- What is answered if one is not. -/
def notConfirming : Message.Validation := ⟨none, "only single node access modes are supported"⟩

/-- Capabilities are validated for a volume that is there, and by their modes alone. -/
theorem run_validation {m : Message.ValidateVolumeCapabilities} (hm : m.WellFormed) {id : VolumeId}
    (hnamed : VolumeId.ofString m.volumeId = .ok id) {s : FaultyStore} {v : Volume} (hstored : s.store.volumes.get? id = some v)
    (hcalm : s.failures = []) :
    ∃ reply t, (c.program (.validateVolumeCapabilities m)).run FaultyStore.answer s = (.ok (.validated reply), t) ∧
      t.store = s.store ∧
      ((∀ cap ∈ m.volumeCapabilities, cap.Offered) ∧ reply = confirming m ∨
        (¬ ∀ cap ∈ m.volumeCapabilities, cap.Offered) ∧ reply = notConfirming) := by
  obtain ⟨r, hr⟩ := (Request.ValidateVolumeCapabilities.checks_ofMessage m).ok_iff.2 hm
  have hconveys := (Request.ValidateVolumeCapabilities.checks_ofMessage m).post_of_ok hr
  have hid : VolumeId.ofString r.volumeId = .ok id := by rw [hconveys.volumeId, hnamed]
  have hperform : s.store.perform ((validateCapabilities r).through Idempotent.layer) =
      (.ok (if r.volumeCapabilities.all supports then
        .confirmed r.volumeContext r.volumeCapabilities r.parameters else .notConfirmed notConfirming.message), s.store) := by
    have hlook (f : Except VolumeError Volume → Program gateway (Except Refusal Validation)) :
        s.store.perform ((askGateway (.getById id) >>= f).through Idempotent.layer) =
          s.store.perform ((f (s.store.getById id)).through Idempotent.layer) := rfl
    rw [validateCapabilities, hid]
    dsimp only
    rw [hlook, Store.getById_of_get? hstored]
    dsimp only
    split <;> rfl
  obtain ⟨t, hrun, hstore, _⟩ := FaultyStore.run_of_perform hcalm hperform
  have hanswer : (c.program (.validateVolumeCapabilities m)).run FaultyStore.answer s = _ := run_respond_of_ok hr hrun
  rw [← all_supports_iff hconveys.volumeCapabilities]
  refine ⟨_, t, hanswer, hstore, ?_⟩
  split
  · rename_i hall
    refine Or.inl ⟨hall, ?_⟩
    rw [Validation.toMessage, map_toMessage_of_supported hconveys.volumeCapabilities hall, hconveys.volumeContext, hconveys.parameters]
    rfl
  · rename_i hnone
    exact Or.inr ⟨hnone, rfl⟩

/-- For a volume that is there, capabilities are confirmed exactly if their modes are those with the numbers 1 and 7, exactly if no
creation is refused for them, and exactly if no publication is refused for any one of them. If they are confirmed, what is answered is
what was asked, and otherwise nothing is. -/
theorem capability_gates_agree (c : Controller) {m : Message.ValidateVolumeCapabilities} (hsome : m.volumeCapabilities ≠ [])
    (hcomplete : ∀ cap ∈ m.volumeCapabilities, cap.Complete) {id : VolumeId} (hnamed : VolumeId.ofString m.volumeId = .ok id)
    {s : FaultyStore} {v : Volume} (hstored : s.store.volumes.get? id = some v) (hcalm : s.failures = []) :
    ∃ (reply : Message.Validation) (t : FaultyStore),
      (c.program (.validateVolumeCapabilities m)).run FaultyStore.answer s = (.ok (.validated reply), t) ∧ t.store = s.store ∧
      (reply.confirmed ≠ none ↔ ∀ cap ∈ m.volumeCapabilities, cap.mode = some 1 ∨ cap.mode = some 7) ∧
      (∀ (n : Message.CreateVolume) (u : FaultyStore), n.WellFormed → n.volumeCapabilities = m.volumeCapabilities →
        (reply.confirmed ≠ none ↔ ¬ c.RefusesCapability (.createVolume n) u)) ∧
      (∀ (p : Message.ControllerPublishVolume) (u : FaultyStore), p.volumeId ≠ "" → p.nodeId ≠ "" → p.readonly = false →
        (reply.confirmed ≠ none ↔ ∀ cap ∈ m.volumeCapabilities,
          ¬ c.RefusesCapability (.controllerPublishVolume { p with volumeCapability := some cap }) u)) ∧
      (reply = confirming m ∨ reply = notConfirming) := by
  have hid : m.volumeId ≠ "" := by
    intro hempty
    rw [hempty] at hnamed
    cases hnamed
  obtain ⟨reply, t, hrun, hstore, hreply⟩ := run_validation (c := c) ⟨hid, hsome, hcomplete⟩ hnamed hstored hcalm
  have hconfirmed : reply.confirmed ≠ none ↔ ∀ cap ∈ m.volumeCapabilities, cap.Offered := by
    rcases hreply with ⟨hall, rfl⟩ | ⟨hnot, rfl⟩
    · exact iff_of_true nofun hall
    · exact iff_of_false (not_not_intro rfl) hnot
  refine ⟨reply, t, hrun, hstore, hconfirmed, fun n u hn hsame => ?_, fun p u hvolume hnode hwritable => ?_, ?_⟩
  · rw [hconfirmed, refuses_creation_iff hn, hsame, not_not]
  · rw [hconfirmed]
    refine forall₂_congr fun cap hcap => ?_
    have hp : Message.ControllerPublishVolume.WellFormed { p with volumeCapability := some cap } :=
      ⟨hvolume, hnode, cap, rfl, hcomplete cap hcap⟩
    rw [refuses_publication_iff hp hwritable rfl, not_not]
  · exact hreply.imp And.right And.right

/-- A message that asks whether the volume of `holdingVolume` can be had by several writers on a node, and in another mode. -/
def validationOf (mode : Int32) : Message.ValidateVolumeCapabilities :=
  { volumeId := "7", volumeContext := SortedMap.empty.insert "fsFormatOptions" "-K"
    volumeCapabilities := [⟨some 7, some (.mount "" ["noatime"])⟩, ⟨some mode, some .block⟩] }

/-- The mode of a single writer is confirmed with it, and a mode that has no meaning is not. -/
theorem capability_gates_of_held :
    let c : Controller := ⟨"fsn1", .empty⟩
    let run (mode : Int32) := (c.program (.validateVolumeCapabilities (validationOf mode))).run FaultyStore.answer holdingVolume
    let creation (mode : Int32) : ControllerCall :=
      .createVolume { name := "b", volumeCapabilities := (validationOf mode).volumeCapabilities }
    ((∀ mode, (validationOf mode).volumeCapabilities ≠ []) ∧
        (∀ mode, ∀ cap ∈ (validationOf mode).volumeCapabilities, cap.Complete) ∧
        (∀ mode, VolumeId.ofString (validationOf mode).volumeId = .ok ⟨7⟩) ∧
        holdingVolume.store.volumes.get? ⟨7⟩ = some ⟨⟨7⟩, "a", 15, "fsn1", "", none⟩ ∧ holdingVolume.failures = []) ∧
      (∃ t, run 1 = (.ok (.validated (confirming (validationOf 1))), t)) ∧ ¬ c.RefusesCapability (creation 1) {} ∧
      (∃ t, run 99 = (.ok (.validated notConfirming), t)) ∧ c.RefusesCapability (creation 99) {} := by
  intro c run creation
  have hsome : ∀ mode, (validationOf mode).volumeCapabilities ≠ [] := fun _ => List.cons_ne_nil _ _
  have hcomplete : ∀ mode, ∀ cap ∈ (validationOf mode).volumeCapabilities, cap.Complete := by
    simp [validationOf, Message.VolumeCapability.Complete]
  have hseven : VolumeId.ofString "7" = .ok ⟨7⟩ := rfl
  have hnamed : ∀ mode, VolumeId.ofString (validationOf mode).volumeId = .ok ⟨7⟩ := fun _ => hseven
  have hstored : holdingVolume.store.volumes.get? ⟨7⟩ = some ⟨⟨7⟩, "a", 15, "fsn1", "", none⟩ := rfl
  obtain ⟨reply, t, hrun, _, hmodes, hcreation, _, hreply⟩ :=
    capability_gates_agree c (hsome 1) (hcomplete 1) (hnamed 1) hstored rfl
  obtain ⟨reply', t', hrun', _, hmodes', hcreation', _, hreply'⟩ :=
    capability_gates_agree c (hsome 99) (hcomplete 99) (hnamed 99) hstored rfl
  have hconfirmed : reply.confirmed ≠ none := hmodes.2 (by simp [validationOf])
  have hnot : ¬ reply'.confirmed ≠ none := mt hmodes'.1 (by simp [validationOf])
  have hwellFormed : ∀ mode, Message.CreateVolume.WellFormed { name := "b", volumeCapabilities := (validationOf mode).volumeCapabilities } :=
    fun mode => ⟨by simp, hsome mode, rfl, hcomplete mode⟩
  refine ⟨⟨hsome, hcomplete, hnamed, hstored, rfl⟩, ⟨t, ?_⟩, ?_, ⟨t', ?_⟩, ?_⟩
  · rcases hreply with rfl | rfl
    · exact hrun
    · exact absurd rfl hconfirmed
  · exact (hcreation _ {} (hwellFormed 1) rfl).1 hconfirmed
  · rcases hreply' with rfl | rfl
    · exact absurd (by simp [confirming]) hnot
    · exact hrun'
  · exact not_not.1 (mt (hcreation' _ {} (hwellFormed 99) rfl).2 hnot)

end Controller

end VolumeDriver
