import Mathlib.Data.List.Forall2
import VolumeDriver.Csi.Request

/-!
# Which messages are requests

A message is a request exactly if it is well formed: what must be set is set, paths are absolute, and capabilities are complete. The
request then conveys the message, field by field, and every other message is refused as invalid (`RequestKind.reads_exactly`). Each
check has a condition of its own under which it succeeds (`Checks`), and so has a reading that is put together from checks.
-/

namespace VolumeDriver.Csi

/-! ## Checks -/

/-- The outcome of a check: accepted, exactly if `valid` holds, with a value of which `post` holds, or refused as invalid. -/
inductive Checks {α : Type} (valid : Prop) (post : α → Prop) : Except Status α → Prop
  | accepted (h : valid) (a : α) (ha : post a) : Checks valid post (.ok a)
  | refused (h : ¬ valid) (problem : String) : Checks valid post (.error (.invalidArgument problem))

namespace Checks

variable {α β : Type} {v w : Prop} {P : α → Prop} {Q : β → Prop} {x : Except Status α}

/-- The condition of a check may be said in other words. -/
theorem of_iff (h : Checks v P x) (hvw : v ↔ w) : Checks w P x := propext hvw ▸ h

/-- What holds of an accepted value may be weakened. -/
theorem mono {R : α → Prop} (h : Checks v P x) (hPR : ∀ a, P a → R a) : Checks v R x := by
  cases h with
  | accepted hv a ha => exact .accepted hv a (hPR a ha)
  | refused hv problem => exact .refused hv problem

/-- A second check is made only if the first succeeds. -/
theorem bind {f : α → Except Status β} (h : Checks v P x) (hf : ∀ a, P a → Checks w Q (f a)) :
    Checks (v ∧ w) Q (x >>= f) := by
  cases h with
  | accepted hv a ha => exact (hf a ha).of_iff (and_iff_right hv).symm
  | refused hv problem => exact .refused (fun h => hv h.1) problem

/-- A check whose value becomes part of another value. -/
theorem bind_ok {g : α → β} (h : Checks v P x) (hg : ∀ a, P a → Q (g a)) : Checks v Q (x >>= fun a => .ok (g a)) := by
  cases h with
  | accepted hv a ha => exact .accepted hv _ (hg a ha)
  | refused hv problem => exact .refused hv problem

/-- A check that is made only where a fault is not found. -/
theorem of_ite {c : Prop} [Decidable c] {problem : String} (h : Checks v P x) :
    Checks (¬ c ∧ v) P (if c then .error (.invalidArgument problem) else x) := by
  by_cases hc : c
  · rw [if_pos hc]
    exact .refused (fun h => h.1 hc) problem
  · rw [if_neg hc]
    exact h.of_iff (and_iff_right hc).symm

/-- A check succeeds exactly under its condition. -/
theorem ok_iff (h : Checks v P x) : (∃ a, x = .ok a) ↔ v := by
  cases h with
  | accepted hv a ha => exact iff_of_true ⟨a, rfl⟩ hv
  | refused hv problem => exact iff_of_false nofun hv

/-- What a check promises of accepted values holds of the one that is accepted. -/
theorem post_of_ok (h : Checks v P x) {a : α} (ha : x = .ok a) : P a := by
  subst ha
  cases h with
  | accepted _ _ h => exact h

/-- A check refuses a value as invalid exactly if its condition does not hold. -/
theorem refuses_iff (h : Checks v P x) : (∃ problem, x = .error (.invalidArgument problem)) ↔ ¬ v := by
  cases h with
  | accepted hv a ha => exact iff_of_false nofun (not_not_intro hv)
  | refused hv problem => exact iff_of_true ⟨problem, rfl⟩ hv

/-- A check fails with no other code. -/
theorem code_of_error (h : Checks v P x) {e : Status} (he : x = .error e) : e.code = .invalidArgument := by
  subst he
  cases h with
  | refused _ _ => rfl

end Checks

/-! ## What is conveyed -/

/-- The mode that a number stands for; a number that is no mode's stands for the unknown one. -/
def AccessMode.Means (mode : AccessMode) (n : Int32) : Prop :=
  mode.number = n ∨ mode = .unknown ∧ ∀ k : AccessMode, k.number ≠ n

/-- A number is read as the mode that it stands for. -/
theorem AccessMode.means_ofNumber (n : Int32) : (ofNumber n).Means n := by
  fun_cases ofNumber n
  case case8 h₁ h₂ h₃ h₄ h₅ h₆ h₇ =>
    by_cases h₀ : n = 0
    · exact Or.inl h₀.symm
    · refine Or.inr ⟨rfl, fun k hk => ?_⟩
      cases k <;> exact absurd hk.symm ‹_›
  all_goals exact Or.inl (Eq.symm ‹_›)

/-- An optional text, and the text of a message, which is empty where it is not set. -/
def ConveysText (o : Option String) (value : String) : Prop := o = if value = "" then none else some value

def AccessType.Conveys : AccessType → Message.AccessType → Prop
  | .block, .block => True
  | .mount v, .mount fsType flags => ConveysText v.fsType fsType ∧ v.mountFlags.flags = flags
  | _, _ => False

structure VolumeCapability.Conveys (c : VolumeCapability) (m : Message.VolumeCapability) : Prop where
  mode : ∃ n, m.mode = some n ∧ c.mode.Means n
  access : ∃ a, m.access = some a ∧ c.access.Conveys a

structure TopologyRequirement.Conveys (t : TopologyRequirement) (m : Message.TopologyRequirement) : Prop where
  requisite : t.requisite = m.requisite
  preferred : t.preferred = m.preferred

/-- An access type is told back as it was asked for. -/
theorem AccessType.toMessage_of_conveys {a : AccessType} {wire : Message.AccessType} (h : a.Conveys wire) : a.toMessage = wire := by
  cases a with
  | block =>
    cases wire with
    | block => rfl
    | mount fsType flags => exact h.elim
  | mount v =>
    cases wire with
    | block => exact h.elim
    | mount fsType flags =>
      obtain ⟨hfsType, hflags⟩ := h
      rw [toMessage, hflags, hfsType]
      by_cases hempty : fsType = "" <;> simp [hempty]

/-- Both access mode and access type are there. -/
def Message.VolumeCapability.Complete (m : VolumeCapability) : Prop := m.mode.isSome ∧ m.access.isSome

/-- The text is that of an absolute path. -/
def IsAbsolute (value : String) : Prop := Path.isAbsolute ⟨value⟩ = true

/-! ## Checks of single fields -/

/-- A capability is read exactly if it is complete. -/
theorem VolumeCapability.checks_ofMessage (m : Message.VolumeCapability) : Checks m.Complete (·.Conveys m) (ofMessage m) := by
  obtain ⟨mode, access⟩ := m
  cases mode with
  | none => exact .refused (fun h => nomatch h.1) _
  | some n =>
    cases access with
    | none => exact .refused (fun h => nomatch h.2) _
    | some a =>
      refine .accepted ⟨rfl, rfl⟩ _ ⟨⟨n, rfl, AccessMode.means_ofNumber n⟩, a, rfl, ?_⟩
      cases a with
      | block => trivial
      | mount fsType flags => exact ⟨by simp [ConveysText], rfl⟩

namespace Request

/-- A text that is required must not be empty. -/
theorem checks_require (value problem : String) : Checks (value ≠ "") (· = value) (require value problem) := by
  unfold require
  split
  case isTrue hempty => exact .refused (not_not_intro (String.isEmpty_iff.1 hempty)) _
  case isFalse hset => exact .accepted (mt String.isEmpty_iff.2 hset) _ rfl

/-- An optional text is read as what the message tells. -/
theorem conveysText_optional (value : String) : ConveysText (optional value) value := by
  simp [ConveysText, optional]

/-- A path that is required must be absolute. -/
theorem checks_requireAbsolute (value empty relative : String) :
    Checks (value ≠ "" ∧ IsAbsolute value) (·.text = value) (requireAbsolute value empty relative) := by
  refine (checks_require value empty).bind ?_
  rintro _ rfl
  split
  case isTrue habsolute => exact .accepted habsolute _ rfl
  case isFalse hrelative => exact .refused hrelative _

/-- An optional path must be absolute if it is set. -/
theorem checks_optionalAbsolute (value relative : String) :
    Checks (value = "" ∨ IsAbsolute value) (fun p => ConveysText (p.map (·.text)) value) (optionalAbsolute value relative) := by
  unfold optionalAbsolute optional
  by_cases hempty : value = ""
  · rw [if_pos (String.isEmpty_iff.2 hempty)]
    exact .accepted (Or.inl hempty) _ (by simp [ConveysText, hempty])
  · rw [if_neg (mt String.isEmpty_iff.1 hempty)]
    dsimp only
    split
    case isTrue habsolute => exact .accepted (Or.inr habsolute) _ (by simp [ConveysText, hempty])
    case isFalse hrelative => exact .refused (by simp [hempty, IsAbsolute, hrelative]) _

/-- A capability that is required must be there and be complete. -/
theorem checks_requireCapability (value : Option Message.VolumeCapability) (problem : String) :
    Checks (∃ m, value = some m ∧ m.Complete) (fun c => Option.Rel VolumeCapability.Conveys (some c) value)
      (requireCapability value problem) := by
  cases value with
  | none => exact .refused (fun ⟨_, h, _⟩ => nomatch h) _
  | some m => exact ((VolumeCapability.checks_ofMessage m).of_iff (by simp)).mono fun _ => .some

/-- An optional capability must be complete if it is there. -/
theorem checks_optionalCapability (value : Option Message.VolumeCapability) :
    Checks (∀ m ∈ value, m.Complete) (Option.Rel VolumeCapability.Conveys · value) (optionalCapability value) := by
  cases value with
  | none => exact .accepted nofun _ .none
  | some m => exact ((VolumeCapability.checks_ofMessage m).bind_ok fun _ => .some).of_iff (by simp)

/-- A list is accepted if each of its capabilities is, and its order is kept. -/
theorem checks_capabilities (ms : List Message.VolumeCapability) :
    Checks (∀ m ∈ ms, m.Complete) (List.Forall₂ VolumeCapability.Conveys · ms) (capabilities ms) := by
  induction ms with
  | nil => exact .accepted nofun _ .nil
  | cons m ms ih =>
    refine Checks.of_iff ?_ List.forall_mem_cons.symm
    exact (VolumeCapability.checks_ofMessage m).bind fun c hc => ih.bind_ok fun cs hcs => .cons hc hcs

end Request

/-! ## Requests to the controller -/

def Message.CreateVolume.WellFormed (m : CreateVolume) : Prop :=
  m.name ≠ "" ∧ m.volumeCapabilities ≠ [] ∧ m.contentSource = none ∧ ∀ c ∈ m.volumeCapabilities, c.Complete

structure Request.CreateVolume.Conveys (r : CreateVolume) (m : Message.CreateVolume) : Prop where
  name : r.name = m.name
  capacityRange : r.capacityRange = m.capacityRange
  volumeCapabilities : List.Forall₂ VolumeCapability.Conveys r.volumeCapabilities m.volumeCapabilities
  parameters : r.parameters = m.parameters
  secrets : r.secrets.entries = m.secrets
  accessibilityRequirements :
    Option.Rel TopologyRequirement.Conveys r.accessibilityRequirements m.accessibilityRequirements

/-- A message to create a volume is a request exactly if it is well formed. -/
theorem Request.CreateVolume.checks_ofMessage (m : Message.CreateVolume) : Checks m.WellFormed (·.Conveys m) (ofMessage m) := by
  have htopology : Option.Rel TopologyRequirement.Conveys
      (m.accessibilityRequirements.map fun t => ⟨t.requisite, t.preferred⟩) m.accessibilityRequirements := by
    cases m.accessibilityRequirements with
    | none => exact .none
    | some t => exact .some ⟨rfl, rfl⟩
  refine Checks.of_iff ((checks_require _ _).bind fun name hname =>
    .of_ite (.of_ite ((checks_capabilities _).bind_ok fun cs hcs => ⟨hname, rfl, hcs, rfl, rfl, htopology⟩))) ?_
  simp [Message.CreateVolume.WellFormed]

def Message.DeleteVolume.WellFormed (m : DeleteVolume) : Prop := m.volumeId ≠ ""

structure Request.DeleteVolume.Conveys (r : DeleteVolume) (m : Message.DeleteVolume) : Prop where
  volumeId : r.volumeId = m.volumeId
  secrets : r.secrets.entries = m.secrets

/-- A message to delete a volume is a request exactly if it is well formed. -/
theorem Request.DeleteVolume.checks_ofMessage (m : Message.DeleteVolume) : Checks m.WellFormed (·.Conveys m) (ofMessage m) :=
  (checks_require _ _).bind_ok fun _ hid => ⟨hid, rfl⟩

def Message.ControllerPublishVolume.WellFormed (m : ControllerPublishVolume) : Prop :=
  m.volumeId ≠ "" ∧ m.nodeId ≠ "" ∧ ∃ c, m.volumeCapability = some c ∧ c.Complete

structure Request.ControllerPublishVolume.Conveys (r : ControllerPublishVolume) (m : Message.ControllerPublishVolume) : Prop where
  volumeId : r.volumeId = m.volumeId
  nodeId : r.nodeId = m.nodeId
  volumeCapability : Option.Rel VolumeCapability.Conveys (some r.volumeCapability) m.volumeCapability
  readonly : r.readonly = m.readonly
  secrets : r.secrets.entries = m.secrets
  volumeContext : r.volumeContext = m.volumeContext

/-- A message to publish a volume to a node is a request exactly if it is well formed. -/
theorem Request.ControllerPublishVolume.checks_ofMessage (m : Message.ControllerPublishVolume) :
    Checks m.WellFormed (·.Conveys m) (ofMessage m) :=
  (checks_require _ _).bind fun _ hid => (checks_require _ _).bind fun _ hnode =>
    (checks_requireCapability _ _).bind_ok fun _ hc => ⟨hid, hnode, hc, rfl, rfl, rfl⟩

def Message.ControllerUnpublishVolume.WellFormed (m : ControllerUnpublishVolume) : Prop := m.volumeId ≠ ""

structure Request.ControllerUnpublishVolume.Conveys (r : ControllerUnpublishVolume) (m : Message.ControllerUnpublishVolume) :
    Prop where
  volumeId : r.volumeId = m.volumeId
  nodeId : ConveysText r.nodeId m.nodeId
  secrets : r.secrets.entries = m.secrets

/-- A message to withdraw a volume from a node is a request exactly if it is well formed. -/
theorem Request.ControllerUnpublishVolume.checks_ofMessage (m : Message.ControllerUnpublishVolume) :
    Checks m.WellFormed (·.Conveys m) (ofMessage m) :=
  (checks_require _ _).bind_ok fun _ hid => ⟨hid, conveysText_optional _, rfl⟩

def Message.ValidateVolumeCapabilities.WellFormed (m : ValidateVolumeCapabilities) : Prop :=
  m.volumeId ≠ "" ∧ m.volumeCapabilities ≠ [] ∧ ∀ c ∈ m.volumeCapabilities, c.Complete

structure Request.ValidateVolumeCapabilities.Conveys (r : ValidateVolumeCapabilities) (m : Message.ValidateVolumeCapabilities) :
    Prop where
  volumeId : r.volumeId = m.volumeId
  volumeContext : r.volumeContext = m.volumeContext
  volumeCapabilities : List.Forall₂ VolumeCapability.Conveys r.volumeCapabilities m.volumeCapabilities
  parameters : r.parameters = m.parameters
  secrets : r.secrets.entries = m.secrets

/-- A message to validate capabilities is a request exactly if it is well formed. -/
theorem Request.ValidateVolumeCapabilities.checks_ofMessage (m : Message.ValidateVolumeCapabilities) :
    Checks m.WellFormed (·.Conveys m) (ofMessage m) := by
  refine Checks.of_iff ((checks_require _ _).bind fun _ hid =>
    .of_ite ((checks_capabilities _).bind_ok fun cs hcs => ⟨hid, rfl, hcs, rfl, rfl⟩)) ?_
  simp [Message.ValidateVolumeCapabilities.WellFormed]

def Message.ListVolumes.WellFormed (m : ListVolumes) : Prop := 0 ≤ m.maxEntries

structure Request.ListVolumes.Conveys (r : ListVolumes) (m : Message.ListVolumes) : Prop where
  maxEntries : (r.maxEntries.toNat : Int) = m.maxEntries.toInt
  startingToken : ConveysText r.startingToken m.startingToken

/-- A message to list volumes is a request exactly if it is well formed. -/
theorem Request.ListVolumes.checks_ofMessage (m : Message.ListVolumes) : Checks m.WellFormed (·.Conveys m) (ofMessage m) := by
  unfold ofMessage
  split
  case isTrue hnegative => exact .refused (Int32.not_le.2 hnegative) _
  case isFalse hcount =>
    have hcount : 0 ≤ m.maxEntries := Int32.not_lt.1 hcount
    refine .accepted hcount _ ⟨?_, conveysText_optional _⟩
    rw [Int32.toNat_toUInt32_of_le hcount]
    exact Int.toNat_of_nonneg (Int32.le_iff_toInt_le.1 hcount)

def Message.ControllerExpandVolume.WellFormed (m : ControllerExpandVolume) : Prop :=
  m.volumeId ≠ "" ∧ ∀ c ∈ m.volumeCapability, c.Complete

structure Request.ControllerExpandVolume.Conveys (r : ControllerExpandVolume) (m : Message.ControllerExpandVolume) : Prop where
  volumeId : r.volumeId = m.volumeId
  capacityRange : r.capacityRange = m.capacityRange
  secrets : r.secrets.entries = m.secrets
  volumeCapability : Option.Rel VolumeCapability.Conveys r.volumeCapability m.volumeCapability

/-- A message to grow a volume is a request exactly if it is well formed. -/
theorem Request.ControllerExpandVolume.checks_ofMessage (m : Message.ControllerExpandVolume) :
    Checks m.WellFormed (·.Conveys m) (ofMessage m) :=
  (checks_require _ _).bind fun _ hid => (checks_optionalCapability _).bind_ok fun _ hc => ⟨hid, rfl, rfl, hc⟩

/-! ## Requests to a node -/

def Message.NodePublishVolume.WellFormed (m : NodePublishVolume) : Prop :=
  m.volumeId ≠ "" ∧ (m.targetPath ≠ "" ∧ IsAbsolute m.targetPath) ∧
    (m.stagingTargetPath = "" ∨ IsAbsolute m.stagingTargetPath) ∧ ∃ c, m.volumeCapability = some c ∧ c.Complete

structure Request.NodePublishVolume.Conveys (r : NodePublishVolume) (m : Message.NodePublishVolume) : Prop where
  volumeId : r.volumeId = m.volumeId
  publishContext : r.publishContext = m.publishContext
  stagingTargetPath : ConveysText (r.stagingTargetPath.map (·.text)) m.stagingTargetPath
  targetPath : r.targetPath.text = m.targetPath
  volumeCapability : Option.Rel VolumeCapability.Conveys (some r.volumeCapability) m.volumeCapability
  readonly : r.readonly = m.readonly
  secrets : r.secrets.entries = m.secrets
  volumeContext : r.volumeContext = m.volumeContext

/-- A message to publish a volume at a path is a request exactly if it is well formed. -/
theorem Request.NodePublishVolume.checks_ofMessage (m : Message.NodePublishVolume) :
    Checks m.WellFormed (·.Conveys m) (ofMessage m) :=
  (checks_require _ _).bind fun _ hid => (checks_requireAbsolute _ _ _).bind fun _ htarget =>
    (checks_optionalAbsolute _ _).bind fun _ hstaging => (checks_requireCapability _ _).bind_ok fun _ hc =>
      ⟨hid, rfl, hstaging, htarget, hc, rfl, rfl, rfl⟩

def Message.NodeUnpublishVolume.WellFormed (m : NodeUnpublishVolume) : Prop :=
  m.volumeId ≠ "" ∧ m.targetPath ≠ "" ∧ IsAbsolute m.targetPath

structure Request.NodeUnpublishVolume.Conveys (r : NodeUnpublishVolume) (m : Message.NodeUnpublishVolume) : Prop where
  volumeId : r.volumeId = m.volumeId
  targetPath : r.targetPath.text = m.targetPath

/-- A message to withdraw a volume from a path is a request exactly if it is well formed. -/
theorem Request.NodeUnpublishVolume.checks_ofMessage (m : Message.NodeUnpublishVolume) :
    Checks m.WellFormed (·.Conveys m) (ofMessage m) :=
  (checks_require _ _).bind fun _ hid => (checks_requireAbsolute _ _ _).bind_ok fun _ htarget => ⟨hid, htarget⟩

def Message.NodeGetVolumeStats.WellFormed (m : NodeGetVolumeStats) : Prop :=
  m.volumeId ≠ "" ∧ (m.volumePath ≠ "" ∧ IsAbsolute m.volumePath) ∧ (m.stagingTargetPath = "" ∨ IsAbsolute m.stagingTargetPath)

structure Request.NodeGetVolumeStats.Conveys (r : NodeGetVolumeStats) (m : Message.NodeGetVolumeStats) : Prop where
  volumeId : r.volumeId = m.volumeId
  volumePath : r.volumePath.text = m.volumePath
  stagingTargetPath : ConveysText (r.stagingTargetPath.map (·.text)) m.stagingTargetPath

/-- A message that asks for the usage of a volume is a request exactly if it is well formed. -/
theorem Request.NodeGetVolumeStats.checks_ofMessage (m : Message.NodeGetVolumeStats) :
    Checks m.WellFormed (·.Conveys m) (ofMessage m) :=
  (checks_require _ _).bind fun _ hid => (checks_requireAbsolute _ _ _).bind fun _ hpath =>
    (checks_optionalAbsolute _ _).bind_ok fun _ hstaging => ⟨hid, hpath, hstaging⟩

def Message.NodeExpandVolume.WellFormed (m : NodeExpandVolume) : Prop :=
  m.volumeId ≠ "" ∧ (m.volumePath ≠ "" ∧ IsAbsolute m.volumePath) ∧
    (m.stagingTargetPath = "" ∨ IsAbsolute m.stagingTargetPath) ∧ ∀ c ∈ m.volumeCapability, c.Complete

structure Request.NodeExpandVolume.Conveys (r : NodeExpandVolume) (m : Message.NodeExpandVolume) : Prop where
  volumeId : r.volumeId = m.volumeId
  volumePath : r.volumePath.text = m.volumePath
  capacityRange : r.capacityRange = m.capacityRange
  stagingTargetPath : ConveysText (r.stagingTargetPath.map (·.text)) m.stagingTargetPath
  volumeCapability : Option.Rel VolumeCapability.Conveys r.volumeCapability m.volumeCapability

/-- A message to grow a filesystem is a request exactly if it is well formed. -/
theorem Request.NodeExpandVolume.checks_ofMessage (m : Message.NodeExpandVolume) :
    Checks m.WellFormed (·.Conveys m) (ofMessage m) :=
  (checks_require _ _).bind fun _ hid => (checks_requireAbsolute _ _ _).bind fun _ hpath =>
    (checks_optionalAbsolute _ _).bind fun _ hstaging => (checks_optionalCapability _).bind_ok fun _ hc =>
      ⟨hid, hpath, rfl, hstaging, hc⟩

/-! ## Every kind of request -/

/-- The requests that are read from a message and checked. -/
inductive RequestKind where
  | createVolume
  | deleteVolume
  | controllerPublishVolume
  | controllerUnpublishVolume
  | validateVolumeCapabilities
  | listVolumes
  | controllerExpandVolume
  | nodePublishVolume
  | nodeUnpublishVolume
  | nodeGetVolumeStats
  | nodeExpandVolume

namespace RequestKind

/-- The messages of a kind. -/
abbrev Message : RequestKind → Type
  | createVolume => Csi.Message.CreateVolume
  | deleteVolume => Csi.Message.DeleteVolume
  | controllerPublishVolume => Csi.Message.ControllerPublishVolume
  | controllerUnpublishVolume => Csi.Message.ControllerUnpublishVolume
  | validateVolumeCapabilities => Csi.Message.ValidateVolumeCapabilities
  | listVolumes => Csi.Message.ListVolumes
  | controllerExpandVolume => Csi.Message.ControllerExpandVolume
  | nodePublishVolume => Csi.Message.NodePublishVolume
  | nodeUnpublishVolume => Csi.Message.NodeUnpublishVolume
  | nodeGetVolumeStats => Csi.Message.NodeGetVolumeStats
  | nodeExpandVolume => Csi.Message.NodeExpandVolume

/-- The requests of a kind. -/
abbrev Request : RequestKind → Type
  | createVolume => Csi.Request.CreateVolume
  | deleteVolume => Csi.Request.DeleteVolume
  | controllerPublishVolume => Csi.Request.ControllerPublishVolume
  | controllerUnpublishVolume => Csi.Request.ControllerUnpublishVolume
  | validateVolumeCapabilities => Csi.Request.ValidateVolumeCapabilities
  | listVolumes => Csi.Request.ListVolumes
  | controllerExpandVolume => Csi.Request.ControllerExpandVolume
  | nodePublishVolume => Csi.Request.NodePublishVolume
  | nodeUnpublishVolume => Csi.Request.NodeUnpublishVolume
  | nodeGetVolumeStats => Csi.Request.NodeGetVolumeStats
  | nodeExpandVolume => Csi.Request.NodeExpandVolume

/-- What becomes of a message. -/
def read : (k : RequestKind) → k.Message → Except Status k.Request
  | createVolume => Csi.Request.CreateVolume.ofMessage
  | deleteVolume => Csi.Request.DeleteVolume.ofMessage
  | controllerPublishVolume => Csi.Request.ControllerPublishVolume.ofMessage
  | controllerUnpublishVolume => Csi.Request.ControllerUnpublishVolume.ofMessage
  | validateVolumeCapabilities => Csi.Request.ValidateVolumeCapabilities.ofMessage
  | listVolumes => Csi.Request.ListVolumes.ofMessage
  | controllerExpandVolume => Csi.Request.ControllerExpandVolume.ofMessage
  | nodePublishVolume => Csi.Request.NodePublishVolume.ofMessage
  | nodeUnpublishVolume => Csi.Request.NodeUnpublishVolume.ofMessage
  | nodeGetVolumeStats => Csi.Request.NodeGetVolumeStats.ofMessage
  | nodeExpandVolume => Csi.Request.NodeExpandVolume.ofMessage

def WellFormed : (k : RequestKind) → k.Message → Prop
  | createVolume => Csi.Message.CreateVolume.WellFormed
  | deleteVolume => Csi.Message.DeleteVolume.WellFormed
  | controllerPublishVolume => Csi.Message.ControllerPublishVolume.WellFormed
  | controllerUnpublishVolume => Csi.Message.ControllerUnpublishVolume.WellFormed
  | validateVolumeCapabilities => Csi.Message.ValidateVolumeCapabilities.WellFormed
  | listVolumes => Csi.Message.ListVolumes.WellFormed
  | controllerExpandVolume => Csi.Message.ControllerExpandVolume.WellFormed
  | nodePublishVolume => Csi.Message.NodePublishVolume.WellFormed
  | nodeUnpublishVolume => Csi.Message.NodeUnpublishVolume.WellFormed
  | nodeGetVolumeStats => Csi.Message.NodeGetVolumeStats.WellFormed
  | nodeExpandVolume => Csi.Message.NodeExpandVolume.WellFormed

/-- A request conveys a message: every field of it is that of the message. -/
def Conveys : (k : RequestKind) → k.Request → k.Message → Prop
  | createVolume => Csi.Request.CreateVolume.Conveys
  | deleteVolume => Csi.Request.DeleteVolume.Conveys
  | controllerPublishVolume => Csi.Request.ControllerPublishVolume.Conveys
  | controllerUnpublishVolume => Csi.Request.ControllerUnpublishVolume.Conveys
  | validateVolumeCapabilities => Csi.Request.ValidateVolumeCapabilities.Conveys
  | listVolumes => Csi.Request.ListVolumes.Conveys
  | controllerExpandVolume => Csi.Request.ControllerExpandVolume.Conveys
  | nodePublishVolume => Csi.Request.NodePublishVolume.Conveys
  | nodeUnpublishVolume => Csi.Request.NodeUnpublishVolume.Conveys
  | nodeGetVolumeStats => Csi.Request.NodeGetVolumeStats.Conveys
  | nodeExpandVolume => Csi.Request.NodeExpandVolume.Conveys

/-- A message of any kind is a request exactly if it is well formed. -/
theorem checks_read (k : RequestKind) (m : k.Message) : Checks (k.WellFormed m) (k.Conveys · m) (k.read m) := by
  cases k with
  | createVolume => exact Csi.Request.CreateVolume.checks_ofMessage m
  | deleteVolume => exact Csi.Request.DeleteVolume.checks_ofMessage m
  | controllerPublishVolume => exact Csi.Request.ControllerPublishVolume.checks_ofMessage m
  | controllerUnpublishVolume => exact Csi.Request.ControllerUnpublishVolume.checks_ofMessage m
  | validateVolumeCapabilities => exact Csi.Request.ValidateVolumeCapabilities.checks_ofMessage m
  | listVolumes => exact Csi.Request.ListVolumes.checks_ofMessage m
  | controllerExpandVolume => exact Csi.Request.ControllerExpandVolume.checks_ofMessage m
  | nodePublishVolume => exact Csi.Request.NodePublishVolume.checks_ofMessage m
  | nodeUnpublishVolume => exact Csi.Request.NodeUnpublishVolume.checks_ofMessage m
  | nodeGetVolumeStats => exact Csi.Request.NodeGetVolumeStats.checks_ofMessage m
  | nodeExpandVolume => exact Csi.Request.NodeExpandVolume.checks_ofMessage m

/-- A message is read exactly if it is well formed. The request conveys the message, and a message that is not well formed is
refused as invalid. -/
theorem reads_exactly (k : RequestKind) (m : k.Message) :
    ((∃ r, k.read m = .ok r) ↔ k.WellFormed m) ∧ (∀ r, k.read m = .ok r → k.Conveys r m) ∧
      ((∃ problem, k.read m = .error (.invalidArgument problem)) ↔ ¬ k.WellFormed m) :=
  ⟨(k.checks_read m).ok_iff, fun _ => (k.checks_read m).post_of_ok, (k.checks_read m).refuses_iff⟩

end RequestKind

end VolumeDriver.Csi
