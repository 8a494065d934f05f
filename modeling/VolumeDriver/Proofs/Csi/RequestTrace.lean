import VolumeDriver.Csi.RequestTrace
import VolumeDriver.Proofs.Csi.Request

/-!
# A trace keeps secrets

Two messages that differ only in the values of their secrets and in the texts of their mount flags are refused for the same fault,
or become requests with the same trace (`RequestKind.trace_conceals`). Of what is secret the requests are put together without a
decision, so it is enough to follow both readings side by side (`Alike`).
-/

namespace VolumeDriver.Csi

/-! ## Messages that differ in what is secret -/

inductive Message.AccessType.SameButFlags : AccessType → AccessType → Prop
  | block : SameButFlags .block .block
  | mount (fsType : String) {flags flags' : List String} (h : flags.length = flags'.length) :
      SameButFlags (.mount fsType flags) (.mount fsType flags')

/-- Two capabilities that differ at most in the texts of their mount flags. -/
structure Message.VolumeCapability.SameButFlags (c c' : VolumeCapability) : Prop where
  mode : c.mode = c'.mode
  access : Option.Rel AccessType.SameButFlags c.access c'.access

namespace RequestKind

/-- Two messages that differ at most in the values of their secrets and in the texts of their mount flags. -/
def SameButSecrets : (k : RequestKind) → k.Message → k.Message → Prop
  | createVolume, m, m' =>
    m.secrets.keys = m'.secrets.keys ∧
      List.Forall₂ Message.VolumeCapability.SameButFlags m.volumeCapabilities m'.volumeCapabilities ∧
      m' = { m with secrets := m'.secrets, volumeCapabilities := m'.volumeCapabilities }
  | deleteVolume, m, m' => m.secrets.keys = m'.secrets.keys ∧ m' = { m with secrets := m'.secrets }
  | controllerPublishVolume, m, m' =>
    m.secrets.keys = m'.secrets.keys ∧
      Option.Rel Message.VolumeCapability.SameButFlags m.volumeCapability m'.volumeCapability ∧
      m' = { m with secrets := m'.secrets, volumeCapability := m'.volumeCapability }
  | controllerUnpublishVolume, m, m' => m.secrets.keys = m'.secrets.keys ∧ m' = { m with secrets := m'.secrets }
  | validateVolumeCapabilities, m, m' =>
    m.secrets.keys = m'.secrets.keys ∧
      List.Forall₂ Message.VolumeCapability.SameButFlags m.volumeCapabilities m'.volumeCapabilities ∧
      m' = { m with secrets := m'.secrets, volumeCapabilities := m'.volumeCapabilities }
  | listVolumes, m, m' => m' = m
  | controllerExpandVolume, m, m' =>
    m.secrets.keys = m'.secrets.keys ∧
      Option.Rel Message.VolumeCapability.SameButFlags m.volumeCapability m'.volumeCapability ∧
      m' = { m with secrets := m'.secrets, volumeCapability := m'.volumeCapability }
  | nodePublishVolume, m, m' =>
    m.secrets.keys = m'.secrets.keys ∧
      Option.Rel Message.VolumeCapability.SameButFlags m.volumeCapability m'.volumeCapability ∧
      m' = { m with secrets := m'.secrets, volumeCapability := m'.volumeCapability }
  | nodeUnpublishVolume, m, m' => m' = m
  | nodeGetVolumeStats, m, m' => m' = m
  | nodeExpandVolume, m, m' =>
    Option.Rel Message.VolumeCapability.SameButFlags m.volumeCapability m'.volumeCapability ∧
      m' = { m with volumeCapability := m'.volumeCapability }

/-- How a request of the kind is written in a trace. -/
def trace : (k : RequestKind) → k.Request → String
  | createVolume => Csi.Request.CreateVolume.trace
  | deleteVolume => Csi.Request.DeleteVolume.trace
  | controllerPublishVolume => Csi.Request.ControllerPublishVolume.trace
  | controllerUnpublishVolume => Csi.Request.ControllerUnpublishVolume.trace
  | validateVolumeCapabilities => Csi.Request.ValidateVolumeCapabilities.trace
  | listVolumes => Csi.Request.ListVolumes.trace
  | controllerExpandVolume => Csi.Request.ControllerExpandVolume.trace
  | nodePublishVolume => Csi.Request.NodePublishVolume.trace
  | nodeUnpublishVolume => Csi.Request.NodeUnpublishVolume.trace
  | nodeGetVolumeStats => Csi.Request.NodeGetVolumeStats.trace
  | nodeExpandVolume => Csi.Request.NodeExpandVolume.trace

end RequestKind

/-! ## Readings side by side -/

/-- Two readings that fail for the same fault, or that show the same of their values. -/
inductive Alike {α ω : Type} (shown : α → ω) : Except Status α → Except Status α → Prop
  | failed (e : Status) : Alike shown (.error e) (.error e)
  | read {a b : α} (h : shown a = shown b) : Alike shown (.ok a) (.ok b)

namespace Alike

variable {α β ω ψ : Type} {f : α → ω} {g : β → ψ} {x y : Except Status α}

/-- A reading is alike to itself. -/
theorem refl (x : Except Status α) : Alike f x x := by
  cases x with
  | error e => exact .failed e
  | ok a => exact .read rfl

/-- What is not secret is read first. -/
theorem bind_left {p q : α → Except Status β} (x : Except Status α) (h : ∀ a, Alike g (p a) (q a)) :
    Alike g (x >>= p) (x >>= q) := by
  cases x with
  | error e => exact .failed e
  | ok a => exact h a

/-- Readings that show the same go on alike if what follows depends on no more. -/
theorem bind {p q : α → Except Status β} (hxy : Alike f x y) (h : ∀ a b, f a = f b → Alike g (p a) (q b)) :
    Alike g (x >>= p) (y >>= q) := by
  cases hxy with
  | failed e => exact .failed e
  | read hab => exact h _ _ hab

/-- What may be secret becomes part of another value. -/
theorem bind_ok {p q : α → β} (hxy : Alike f x y) (h : ∀ a b, f a = f b → g (p a) = g (q b)) :
    Alike g (x >>= fun a => .ok (p a)) (y >>= fun a => .ok (q a)) := hxy.bind fun a b hab => .read (h a b hab)

/-- A fault that both have or neither has is found in both or in neither. -/
theorem of_ite {c d : Prop} [Decidable c] [Decidable d] (hcd : c ↔ d) (e : Status) (h : Alike f x y) :
    Alike f (if c then .error e else x) (if d then .error e else y) := by
  by_cases hc : c
  · rw [if_pos hc, if_pos (hcd.1 hc)]
    exact .failed e
  · rw [if_neg hc, if_neg (mt hcd.2 hc)]
    exact h

/-- A reading that succeeds is beside one that does. -/
theorem exists_ok {a : α} (h : Alike f (.ok a) y) : ∃ b, y = .ok b ∧ f a = f b := by
  cases h with
  | read hab => exact ⟨_, rfl, hab⟩

/-- Readings side by side show the same, faults included. -/
theorem map_eq (h : Alike f x y) : x.map f = y.map f := by
  cases h with
  | failed e => rfl
  | read hab => exact congrArg Except.ok hab

end Alike

/-! ## What is secret -/

/-- The trace of secrets tells their keys and no more. -/
theorem Secrets.trace_of_keys {s s' : StringMap} (h : s.keys = s'.keys) : Secrets.trace ⟨s⟩ = Secrets.trace ⟨s'⟩ := by
  rw [Secrets.trace, Secrets.trace, h]

/-- The trace of an access type tells no text of a mount flag. -/
theorem AccessType.trace_of_sameButFlags {a a' : Message.AccessType} (h : a.SameButFlags a') :
    (ofMessage a).trace = (ofMessage a').trace := by
  cases h with
  | block => rfl
  | mount fsType hcount => simp only [ofMessage, AccessType.trace, MountVolume.trace, MountFlags.trace, hcount]

/-- Capabilities that differ in the texts of their flags are read alike. -/
theorem VolumeCapability.alike_ofMessage {c c' : Message.VolumeCapability} (h : c.SameButFlags c') :
    Alike trace (ofMessage c) (ofMessage c') := by
  obtain ⟨mode, access⟩ := c
  obtain ⟨mode', access'⟩ := c'
  obtain ⟨rfl, haccess⟩ := h
  cases mode with
  | none => exact .failed _
  | some n =>
    cases haccess with
    | none => exact .failed _
    | some ha => exact .read (by simp only [trace, AccessType.trace_of_sameButFlags ha])

namespace Request

/-- A required capability is read alike whatever the texts of its flags. -/
theorem alike_requireCapability {v v' : Option Message.VolumeCapability} (h : Option.Rel Message.VolumeCapability.SameButFlags v v')
    (problem : String) : Alike VolumeCapability.trace (requireCapability v problem) (requireCapability v' problem) := by
  cases h with
  | none => exact .failed _
  | some hc => exact VolumeCapability.alike_ofMessage hc

/-- An optional capability is read alike whatever the texts of its flags. -/
theorem alike_optionalCapability {v v' : Option Message.VolumeCapability} (h : Option.Rel Message.VolumeCapability.SameButFlags v v') :
    Alike (Trace.option VolumeCapability.trace) (optionalCapability v) (optionalCapability v') := by
  cases h with
  | none => exact .read rfl
  | some hc => exact (VolumeCapability.alike_ofMessage hc).bind_ok fun _ _ hab => by rw [Trace.option, Trace.option, hab]

/-- Capabilities in a row are read alike whatever the texts of their flags. -/
theorem alike_capabilities {cs cs' : List Message.VolumeCapability} (h : List.Forall₂ Message.VolumeCapability.SameButFlags cs cs') :
    Alike (List.map VolumeCapability.trace) (capabilities cs) (capabilities cs') := by
  induction h with
  | nil => exact .read rfl
  | cons hc _ ih =>
    refine (VolumeCapability.alike_ofMessage hc).bind fun a b hab => ih.bind_ok fun as bs hrest => ?_
    rw [List.map_cons, List.map_cons, hab, hrest]

/-- A list of capabilities has the trace that its capabilities have. -/
theorem trace_capabilities {cs cs' : List VolumeCapability} (h : cs.map VolumeCapability.trace = cs'.map VolumeCapability.trace) :
    Trace.list VolumeCapability.trace cs = Trace.list VolumeCapability.trace cs' := by
  rw [Trace.list, Trace.list, h]

/-! ## Kinds of requests -/

section

variable {secrets : StringMap} {c : Option Message.VolumeCapability} {cs : List Message.VolumeCapability}

/-- Messages to create a volume that differ in what is secret are read alike. -/
theorem CreateVolume.alike_ofMessage {m : Message.CreateVolume} (hkeys : m.secrets.keys = secrets.keys)
    (hcs : List.Forall₂ Message.VolumeCapability.SameButFlags m.volumeCapabilities cs) :
    Alike trace (ofMessage m) (ofMessage { m with secrets := secrets, volumeCapabilities := cs }) := by
  refine .bind_left _ fun name => .of_ite ?_ _ (.of_ite Iff.rfl _ ?_)
  · rw [List.isEmpty_iff_length_eq_zero, List.isEmpty_iff_length_eq_zero, hcs.length_eq]
  · refine (alike_capabilities hcs).bind_ok fun cs cs' hsame => ?_
    simp only [trace, trace_capabilities hsame, Secrets.trace_of_keys hkeys]

/-- Messages to delete a volume that differ in what is secret are read alike. -/
theorem DeleteVolume.alike_ofMessage {m : Message.DeleteVolume} (hkeys : m.secrets.keys = secrets.keys) :
    Alike trace (ofMessage m) (ofMessage { m with secrets := secrets }) :=
  .bind_left _ fun id => .read (by simp only [trace, Secrets.trace_of_keys hkeys])

/-- Messages to publish a volume to a node that differ in what is secret are read alike. -/
theorem ControllerPublishVolume.alike_ofMessage {m : Message.ControllerPublishVolume} (hkeys : m.secrets.keys = secrets.keys)
    (hc : Option.Rel Message.VolumeCapability.SameButFlags m.volumeCapability c) :
    Alike trace (ofMessage m) (ofMessage { m with secrets := secrets, volumeCapability := c }) := by
  refine .bind_left _ fun id => .bind_left _ fun node => (alike_requireCapability hc _).bind_ok fun c c' hsame => ?_
  simp only [trace, hsame, Secrets.trace_of_keys hkeys]

/-- Messages to withdraw a volume from a node that differ in what is secret are read alike. -/
theorem ControllerUnpublishVolume.alike_ofMessage {m : Message.ControllerUnpublishVolume} (hkeys : m.secrets.keys = secrets.keys) :
    Alike trace (ofMessage m) (ofMessage { m with secrets := secrets }) :=
  .bind_left _ fun id => .read (by simp only [trace, Secrets.trace_of_keys hkeys])

/-- Messages to validate capabilities that differ in what is secret are read alike. -/
theorem ValidateVolumeCapabilities.alike_ofMessage {m : Message.ValidateVolumeCapabilities} (hkeys : m.secrets.keys = secrets.keys)
    (hcs : List.Forall₂ Message.VolumeCapability.SameButFlags m.volumeCapabilities cs) :
    Alike trace (ofMessage m) (ofMessage { m with secrets := secrets, volumeCapabilities := cs }) := by
  refine .bind_left _ fun id => .of_ite ?_ _ ?_
  · rw [List.isEmpty_iff_length_eq_zero, List.isEmpty_iff_length_eq_zero, hcs.length_eq]
  · refine (alike_capabilities hcs).bind_ok fun cs cs' hsame => ?_
    simp only [trace, trace_capabilities hsame, Secrets.trace_of_keys hkeys]

/-- Messages to grow a volume that differ in what is secret are read alike. -/
theorem ControllerExpandVolume.alike_ofMessage {m : Message.ControllerExpandVolume} (hkeys : m.secrets.keys = secrets.keys)
    (hc : Option.Rel Message.VolumeCapability.SameButFlags m.volumeCapability c) :
    Alike trace (ofMessage m) (ofMessage { m with secrets := secrets, volumeCapability := c }) := by
  refine .bind_left _ fun id => (alike_optionalCapability hc).bind_ok fun c c' hsame => ?_
  simp only [trace, hsame, Secrets.trace_of_keys hkeys]

/-- Messages to publish a volume at a path that differ in what is secret are read alike. -/
theorem NodePublishVolume.alike_ofMessage {m : Message.NodePublishVolume} (hkeys : m.secrets.keys = secrets.keys)
    (hc : Option.Rel Message.VolumeCapability.SameButFlags m.volumeCapability c) :
    Alike trace (ofMessage m) (ofMessage { m with secrets := secrets, volumeCapability := c }) := by
  refine .bind_left _ fun id => .bind_left _ fun target => .bind_left _ fun staging => ?_
  refine (alike_requireCapability hc _).bind_ok fun c c' hsame => ?_
  simp only [trace, hsame, Secrets.trace_of_keys hkeys]

/-- Messages to grow a filesystem that differ in what is secret are read alike. -/
theorem NodeExpandVolume.alike_ofMessage {m : Message.NodeExpandVolume}
    (hc : Option.Rel Message.VolumeCapability.SameButFlags m.volumeCapability c) :
    Alike trace (ofMessage m) (ofMessage { m with volumeCapability := c }) := by
  refine .bind_left _ fun id => .bind_left _ fun path => .bind_left _ fun staging => ?_
  refine (alike_optionalCapability hc).bind_ok fun c c' hsame => ?_
  simp only [trace, hsame]

end

end Request

namespace RequestKind

/-- Messages of any kind that differ in what is secret are read alike. -/
theorem alike_read {k : RequestKind} {m m' : k.Message} (h : k.SameButSecrets m m') : Alike k.trace (k.read m) (k.read m') := by
  cases k with
  | createVolume =>
    obtain ⟨hkeys, hcs, hm⟩ := h
    exact hm ▸ Request.CreateVolume.alike_ofMessage hkeys hcs
  | deleteVolume =>
    obtain ⟨hkeys, hm⟩ := h
    exact hm ▸ Request.DeleteVolume.alike_ofMessage hkeys
  | controllerPublishVolume =>
    obtain ⟨hkeys, hc, hm⟩ := h
    exact hm ▸ Request.ControllerPublishVolume.alike_ofMessage hkeys hc
  | controllerUnpublishVolume =>
    obtain ⟨hkeys, hm⟩ := h
    exact hm ▸ Request.ControllerUnpublishVolume.alike_ofMessage hkeys
  | validateVolumeCapabilities =>
    obtain ⟨hkeys, hcs, hm⟩ := h
    exact hm ▸ Request.ValidateVolumeCapabilities.alike_ofMessage hkeys hcs
  | controllerExpandVolume =>
    obtain ⟨hkeys, hc, hm⟩ := h
    exact hm ▸ Request.ControllerExpandVolume.alike_ofMessage hkeys hc
  | nodePublishVolume =>
    obtain ⟨hkeys, hc, hm⟩ := h
    exact hm ▸ Request.NodePublishVolume.alike_ofMessage hkeys hc
  | nodeExpandVolume =>
    obtain ⟨hc, hm⟩ := h
    exact hm ▸ Request.NodeExpandVolume.alike_ofMessage hc
  | listVolumes | nodeUnpublishVolume | nodeGetVolumeStats =>
    obtain rfl : m' = m := h
    exact .refl _

/-- Of two messages that differ at most in what is secret both are refused for the same fault, or both become requests with the same
trace. -/
theorem trace_conceals (k : RequestKind) (m m' : k.Message) (h : k.SameButSecrets m m') :
    (k.read m).map k.trace = (k.read m').map k.trace := (alike_read h).map_eq

/-- Another passphrase, and another flag. -/
theorem trace_conceals_passphrase :
    let m (passphrase flag : String) : Csi.Message.NodePublishVolume :=
      { volumeId := "42", targetPath := "/t", secrets := .ofList [("encryption-passphrase", passphrase)]
        volumeCapability := some ⟨some 1, some (.mount "ext4" [flag])⟩ }
    (nodePublishVolume.SameButSecrets (m "first" "noatime") (m "second" "ro") ∧
        (nodePublishVolume.read (m "first" "noatime")).isOk ∧ m "first" "noatime" ≠ m "second" "ro") ∧
      (nodePublishVolume.read (m "first" "noatime")).map nodePublishVolume.trace =
        (nodePublishVolume.read (m "second" "ro")).map nodePublishVolume.trace := by
  intro m
  have hsame : nodePublishVolume.SameButSecrets (m "first" "noatime") (m "second" "ro") :=
    ⟨by decide, .some ⟨rfl, .some (.mount "ext4" rfl)⟩, rfl⟩
  exact ⟨⟨hsame, by decide, by decide⟩, trace_conceals nodePublishVolume _ _ hsame⟩

end RequestKind

end VolumeDriver.Csi
