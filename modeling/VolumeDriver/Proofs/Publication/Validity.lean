import VolumeDriver.Proofs.Csi.Request
import VolumeDriver.Proofs.Publication.Secrecy

/-!
# An invalid publish does nothing

A request to publish is found invalid by the check of its message, by the node, which looks for a device, or by the task, which
first reads the format options. All three come before the first call (`Node.serve_publish_cases`), and no failure after it is
answered as invalid: so a request is answered as invalid exactly if it cannot be published, and nothing was done then
(`Node.published_invalid_iff`).
-/

namespace VolumeDriver

open Program Csi

variable {τ α β : Type}

/-- The request is answered as invalid. -/
def Csi.FoundInvalid (answer : Except Status α) : Prop := ∃ e : Status, answer = .error e ∧ e.code = .invalidArgument

/-- The message asks for a device to be published, with format options that can be read. -/
structure Csi.Message.NodePublishVolume.Publishable (m : Message.NodePublishVolume) : Prop where
  wellFormed : m.WellFormed
  device : ∃ device, m.publishContext.get? Plugin.devicePathKey = some device ∧ device ≠ ""
  formatOptions :
    ∀ options, m.volumeContext.get? Plugin.formatOptionsKey = some options → ∃ words, Text.shellWords options = some words

/-! ## Failures of a task -/

namespace Publication

/-- Whatever the host replies, the task does not end with a fault of the format options. -/
def Uncritical (t : Task α) : Prop := Yields (I := host) (fun _ _ => True) (· ≠ .error .formatOptions) t.run

/-- Two uncritical tasks in a row are uncritical. -/
theorem uncritical_bind {t : Task α} {f : α → Task β} (ht : Uncritical t) (hf : ∀ a, Uncritical (f a)) : Uncritical (t >>= f) := by
  refine Yields.bind ht fun r hr => ?_
  cases r with
  | ok a => exact hf a
  | error e => exact fun he => hr (congrArg Except.error (Except.error.inj he))

theorem uncritical_onHost (t : HostTask α) : Uncritical (onHost t) := by
  refine Yields.bind (P := fun _ => True) (yields_of_forall (fun _ => trivial) _) fun r _ => ?_
  cases r <;> exact nofun

theorem uncritical_pure (a : α) : Uncritical (pure a) := nofun

theorem uncritical_throw {e : PublishError} (h : e ≠ .formatOptions) : Uncritical (throw e : Task α) :=
  fun he => h (Except.error.inj he)

/-- To find the source of a mount is uncritical. -/
theorem uncritical_source (device : Path) (o : PublishOptions) : Uncritical (source device o) := by
  rw [source_eq]
  refine uncritical_bind ?_ fun _ => uncritical_pure _
  unfold unlock
  split
  · exact uncritical_pure ()
  · split
    · exact uncritical_throw (by simp)
    · refine uncritical_bind (uncritical_bind (uncritical_onHost _) fun found => ?_) fun _ => uncritical_onHost _
      unfold encryptFor
      split
      · split
        · exact uncritical_throw (by simp)
        · exact uncritical_onHost _
      · split
        · exact uncritical_throw (by simp)
        · exact uncritical_pure ()

/-- With format options that can be read, a publish fails for another reason if it fails. -/
theorem uncritical_publish {device target : Path} {o : PublishOptions} {arguments : List String}
    (h : o.formatArguments = .ok arguments) : Uncritical (publish device target o) := by
  rw [publish_eq h]
  refine uncritical_bind (uncritical_onHost _) fun free => ?_
  split
  · exact uncritical_bind (uncritical_source device o) fun _ => uncritical_onHost _
  · exact uncritical_pure ()

end Publication

/-- Format options that cannot be read are refused for that. -/
theorem PublishOptions.formatArguments_error {o : PublishOptions} {e : PublishError} (h : o.formatArguments = .error e) :
    e = .formatOptions := by
  unfold formatArguments at h
  split at h
  · exact (Except.error.inj h).symm
  · nomatch h

/-- Arguments are there exactly if the options can be read, or there are none. -/
theorem PublishOptions.formatArguments_ok_iff (o : PublishOptions) :
    (∃ arguments, o.formatArguments = .ok arguments) ↔
      ∀ options, o.formatOptions = some options → ∃ words, Text.shellWords options = some words := by
  have hwords : (∃ arguments, o.formatArguments = .ok arguments) ↔
      ∃ words, Text.shellWords (o.formatOptions.getD "") = some words := by
    unfold formatArguments
    cases Text.shellWords (o.formatOptions.getD "") <;> simp
  rw [hwords]
  cases o.formatOptions with
  | none => exact iff_of_true ⟨[], rfl⟩ nofun
  | some options => simp

/-! ## Answers of a node -/

namespace Node

/-- The format options of a publish are those in the context of the volume. -/
theorem formatOptions_publishOptions (r : Request.NodePublishVolume) :
    (publishOptions r).formatOptions = r.volumeContext.get? Plugin.formatOptionsKey := by
  unfold publishOptions
  cases r.volumeCapability.access <;> rfl

/-- A request names a device if the publish context has a device path that is not empty. -/
theorem device?_isSome_iff (r : Request.NodePublishVolume) :
    (∃ device, device? r = some device) ↔ ∃ text, r.publishContext.get? Plugin.devicePathKey = some text ∧ text ≠ "" := by
  simp [device?]

/-- Only a fault of the format options is answered as invalid. -/
theorem code_refusal {e : PublishError} (h : e ≠ .formatOptions) : (refusal e).fullStatus.code = .internal := by
  cases e with
  | formatOptions => exact absurd rfl h
  | _ => rfl

/-- An uncritical task that fails is answered with an internal error. -/
theorem yields_answer {t : Publication.Task α} (h : Publication.Uncritical t) :
    (answer t).Yields (fun _ _ => True) fun x => ∀ e : Refusal, x = .error e → e.fullStatus.code = .internal := by
  refine Yields.bind h fun r hr => ?_
  cases r with
  | ok a => exact nofun
  | error e =>
    rintro _ ⟨⟩
    exact code_refusal fun he => hr (he ▸ rfl)

/-- The request names a device, and its format options can be read. -/
def CanPublish (r : Request.NodePublishVolume) : Prop :=
  (∃ device, device? r = some device) ∧ ∃ arguments, (publishOptions r).formatArguments = .ok arguments

/-- A request is refused as invalid without a call, or its device is published, which does not fail for what is asked. -/
theorem publishVolume_cases (r : Request.NodePublishVolume) :
    (¬ CanPublish r ∧ ∃ problem, publishVolume r = done (.error (.other (.invalidArgument problem)))) ∨
      CanPublish r ∧
        (publishVolume r).Yields (fun _ _ => True) fun x => ∀ e : Refusal, x = .error e → e.fullStatus.code = .internal := by
  unfold publishVolume
  cases hdevice : device? r with
  | none => exact Or.inl ⟨fun h => absurd h.1 (by simp [hdevice]), _, rfl⟩
  | some device =>
    cases harguments : (publishOptions r).formatArguments with
    | error e =>
      refine Or.inl ⟨fun h => absurd h.2 (by simp [harguments]), PublishError.formatOptions.message, ?_⟩
      dsimp only
      rw [PublishOptions.formatArguments_error harguments] at harguments
      rw [Publication.publish, harguments]
      rfl
    | ok arguments =>
      exact Or.inr ⟨⟨⟨device, hdevice⟩, arguments, harguments⟩, yields_answer (Publication.uncritical_publish harguments)⟩

/-- A request that conveys a message asks for what the message asks. -/
theorem publishable_iff_of_conveys {r : Request.NodePublishVolume} {m : Message.NodePublishVolume} (hm : m.WellFormed)
    (hr : r.Conveys m) : m.Publishable ↔ CanPublish r := by
  rw [CanPublish, device?_isSome_iff, PublishOptions.formatArguments_ok_iff, formatOptions_publishOptions, hr.publishContext,
    hr.volumeContext]
  exact ⟨fun h => ⟨h.device, h.formatOptions⟩, fun ⟨hdevice, hoptions⟩ => ⟨hm, hdevice, hoptions⟩⟩

/-- A message is answered as invalid before the first call, or its device is published, and then it is not answered so. -/
theorem serve_publish_cases (n : Node) (m : Message.NodePublishVolume) :
    (¬ m.Publishable ∧ ∃ problem, n.service.serve (.nodePublishVolume m) = done (.error (.invalidArgument problem))) ∨
      m.Publishable ∧ (n.service.serve (.nodePublishVolume m)).Yields (fun _ _ => True) (¬ FoundInvalid ·) := by
  have hread := Request.NodePublishVolume.checks_ofMessage m
  show (_ ∧ ∃ problem, respond Refusal.fullStatus (Request.NodePublishVolume.ofMessage m) publishVolume _ = _) ∨
    _ ∧ (respond Refusal.fullStatus (Request.NodePublishVolume.ofMessage m) publishVolume _).Yields _ _
  generalize Request.NodePublishVolume.ofMessage m = request at hread
  cases hread with
  | refused hmessage problem => exact Or.inl ⟨fun h => hmessage h.wellFormed, problem, rfl⟩
  | accepted hmessage r hr =>
    rw [publishable_iff_of_conveys hmessage hr]
    rcases publishVolume_cases r with ⟨hrefused, problem, hdone⟩ | ⟨hpublished, hyields⟩
    · refine Or.inl ⟨hrefused, problem, ?_⟩
      rw [respond, hdone]
      rfl
    · refine Or.inr ⟨hpublished, Yields.bind hyields fun x hx => ?_⟩
      cases x with
      | ok _ => exact fun ⟨_, h, _⟩ => nomatch h
      | error e =>
        rintro ⟨_, ⟨⟩, hcode⟩
        exact absurd ((hx e rfl).symm.trans hcode) (by decide)

/-- A request is answered as invalid exactly if it cannot be published: if its message is not well formed, names no device or has
format options that cannot be read. Then nothing was done to the host. -/
theorem published_invalid_iff (n : Node) (tools : Toolbox τ) (m : Message.NodePublishVolume) (s : MemoryHost τ) :
    (FoundInvalid (n.published tools m s).1 ↔ ¬ m.Publishable) ∧
      (FoundInvalid (n.published tools m s).1 → (n.published tools m s).2 = s) := by
  rcases n.serve_publish_cases m with ⟨hunfit, problem, hdone⟩ | ⟨hfit, hyields⟩
  · have hrefused : n.published tools m s = (.error (.invalidArgument problem), s) := by rw [published, hdone, run_done]
    rw [hrefused]
    exact ⟨iff_of_true ⟨_, rfl, rfl⟩ hunfit, fun _ => rfl⟩
  · have hvalid : ¬ FoundInvalid (n.published tools m s).1 :=
      hyields.run (only_true _) (T := fun _ => True) (fun _ _ _ _ => ⟨trivial, trivial⟩) trivial
    exact ⟨iff_of_false hvalid (not_not_intro hfit), fun h => absurd h hvalid⟩

end Node

end VolumeDriver
