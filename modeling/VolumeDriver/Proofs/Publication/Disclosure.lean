import VolumeDriver.Node
import VolumeDriver.Proofs.Csi.RequestTrace
import VolumeDriver.Proofs.SortedMap
import VolumeDriver.Proofs.Trace

/-!
# What the trace of publish options tells

The trace of a request to publish keeps its passphrase and the texts of its mount flags. The options that a node makes of the request
have a trace of their own. It tells everything but the text of the passphrase (`PublishOptions.trace_eq_iff`), the flags too. So two
requests that differ only in what is secret have options with one trace exactly if they have the same flags
(`Node.options_trace_iff`).
-/

namespace VolumeDriver

open Csi

namespace PublishOptions

variable {o p : PublishOptions}

/-- Options that differ at most in the text of the passphrase. -/
structure SameButPassphrase (o p : PublishOptions) : Prop where
  block : o.block = p.block
  fsType : o.fsType = p.fsType
  readonly : o.readonly = p.readonly
  flags : o.flags = p.flags
  passphrase : o.passphrase.isSome = p.passphrase.isSome
  formatOptions : o.formatOptions = p.formatOptions

/-- The fields of a trace of options, and what is told by each. -/
def traced : List (Trace.Field PublishOptions) :=
  [⟨"block_volume", fun o => Trace.bool o.block, fun o p => o.block = p.block⟩,
   ⟨"fs_type", fun o => Text.quote o.fsType, fun o p => o.fsType = p.fsType⟩,
   ⟨"readonly", fun o => Trace.bool o.readonly, fun o p => o.readonly = p.readonly⟩,
   ⟨"additional_flags", fun o => Trace.list Text.quote o.flags, fun o p => o.flags = p.flags⟩,
   ⟨"encryption_passphrase", fun o => Trace.option (fun _ => Trace.redacted) o.passphrase,
     fun o p => o.passphrase.isSome = p.passphrase.isSome⟩,
   ⟨"fs_format_options", fun o => Trace.option Text.quote o.formatOptions, fun o p => o.formatOptions = p.formatOptions⟩]

/-- Each field of a trace of options tells what it is said to tell. -/
theorem discloses_traced : ∀ x ∈ traced, Trace.Discloses x.text x.alike := by
  have hpassphrase : Trace.Discloses (Trace.option fun _ : String => Trace.redacted) fun a b => a.isSome = b.isSome :=
    (Trace.Discloses.option (.const Trace.redacted)).of_iff fun a b => by cases a <;> cases b <;> simp
  have hformat : Trace.Discloses (Trace.option Text.quote) Eq :=
    (Trace.Discloses.option .quote).of_iff fun a b => by cases a <;> cases b <;> simp
  simp only [traced, List.forall_mem_cons]
  exact ⟨.on .bool block, .on .quote fsType, .on .bool readonly, .on .quotes flags, hpassphrase.on passphrase,
    hformat.on formatOptions, nofun⟩

/-- From a trace of options all is told but the text of the passphrase. -/
theorem trace_eq_iff : o.trace = p.trace ↔ o.SameButPassphrase p := by
  have htrace (o : PublishOptions) : o.trace = Trace.record "MountOpts" (traced.map fun x => (x.key, x.text o)) := rfl
  rw [htrace, htrace, (Trace.Discloses.record "MountOpts" discloses_traced).eq_iff]
  simp only [traced, List.forall_mem_cons]
  constructor
  · rintro ⟨hblock, hfsType, hreadonly, hflags, hpassphrase, hformat, _⟩
    exact ⟨hblock, hfsType, hreadonly, hflags, hpassphrase, hformat⟩
  · rintro ⟨hblock, hfsType, hreadonly, hflags, hpassphrase, hformat⟩
    exact ⟨hblock, hfsType, hreadonly, hflags, hpassphrase, hformat, nofun⟩

end PublishOptions

/-! ## Options of a message -/

namespace Csi

variable {m m' : Message.NodePublishVolume}

/-- The mount flags of an access type; a block volume has none. -/
def Message.AccessType.flags : AccessType → List String
  | .block => []
  | .mount _ flags => flags

/-- How a message to publish a volume wants it accessed. -/
def Message.NodePublishVolume.access? (m : NodePublishVolume) : Option AccessType := m.volumeCapability.bind (·.access)

/-- The mount flags of a message to publish a volume. -/
def Message.NodePublishVolume.flags (m : NodePublishVolume) : List String := (m.access?.map AccessType.flags).getD []

/-- A message wants its volume accessed as the request that it conveys. -/
theorem Request.NodePublishVolume.access?_of_conveys {r : NodePublishVolume} (h : r.Conveys m) :
    m.access? = some r.volumeCapability.access.toMessage := by
  have hcapability := h.volumeCapability
  unfold Message.NodePublishVolume.access?
  cases hm : m.volumeCapability with
  | none =>
    rw [hm] at hcapability
    cases hcapability
  | some c =>
    rw [hm, Option.rel_some_some] at hcapability
    obtain ⟨b, hb, hconveys⟩ := hcapability.access
    rw [Option.bind_some, hb, AccessType.toMessage_of_conveys hconveys]

/-- A message has the mount flags of the request that it conveys. -/
theorem Request.NodePublishVolume.flags_of_conveys {r : NodePublishVolume} (h : r.Conveys m) :
    m.flags = r.volumeCapability.access.toMessage.flags := by
  rw [Message.NodePublishVolume.flags, access?_of_conveys h, Option.map_some, Option.getD_some]

/-- Messages that differ in secrets and flags alone want the same access but for the flags. -/
theorem Message.NodePublishVolume.access?_of_sameButSecrets (h : RequestKind.nodePublishVolume.SameButSecrets m m') :
    Option.Rel AccessType.SameButFlags m.access? m'.access? := by
  obtain ⟨_, hcapability, _⟩ := h
  unfold access?
  generalize m.volumeCapability = c, m'.volumeCapability = c' at hcapability
  cases hcapability with
  | none => exact .none
  | some hc => exact hc.access

end Csi

namespace Node

variable {a a' : Message.AccessType} {m m' : Message.NodePublishVolume}

/-- How a device is to be published for an access type. -/
def accessOptions : Message.AccessType → PublishOptions
  | .block => { block := true }
  | .mount fsType flags => { fsType := fsType, flags := flags }

/-- The options of an access type have its flags. -/
@[simp]
theorem flags_accessOptions (a : Message.AccessType) : (accessOptions a).flags = a.flags := by
  cases a <;> rfl

/-- The options of access types that differ in their flags alone differ in these alone. -/
theorem accessOptions_of_sameButFlags (h : a.SameButFlags a') :
    accessOptions a' = { accessOptions a with flags := a'.flags } := by
  cases h <;> rfl

/-- What the options of a request are put together from. -/
theorem publishOptions_eq (r : Request.NodePublishVolume) :
    publishOptions r = { accessOptions r.volumeCapability.access.toMessage with
      readonly := r.readonly
      passphrase := r.secrets.entries.get? Plugin.passphraseKey
      formatOptions := r.volumeContext.get? Plugin.formatOptionsKey } := by
  have hblock : r.volumeCapability.isBlock = decide (r.volumeCapability.access = .block) := rfl
  unfold publishOptions
  rw [hblock]
  cases r.volumeCapability.access <;> rfl

/-- The options of two requests that differ at most in what is secret differ in no more than the passphrase exactly if the messages have
the same mount flags. -/
theorem sameButPassphrase_publishOptions_iff {r r' : Request.NodePublishVolume} (hr : r.Conveys m) (hr' : r'.Conveys m')
    (h : RequestKind.nodePublishVolume.SameButSecrets m m') :
    (publishOptions r).SameButPassphrase (publishOptions r') ↔ m.flags = m'.flags := by
  have hsame := Message.NodePublishVolume.access?_of_sameButSecrets h
  rw [Request.NodePublishVolume.access?_of_conveys hr, Request.NodePublishVolume.access?_of_conveys hr', Option.rel_some_some] at hsame
  obtain ⟨hkeys, -, hrest⟩ := h
  have hpassphrase : (m.secrets.get? Plugin.passphraseKey).isSome = (m'.secrets.get? Plugin.passphraseKey).isSome := by
    rw [Bool.eq_iff_iff, SortedMap.isSome_get?_iff, SortedMap.isSome_get?_iff, hkeys]
  rw [publishOptions_eq, publishOptions_eq, accessOptions_of_sameButFlags hsame, hr.readonly, hr.secrets, hr.volumeContext,
    hr'.readonly, hr'.secrets, hr'.volumeContext, Request.NodePublishVolume.flags_of_conveys hr,
    Request.NodePublishVolume.flags_of_conveys hr']
  constructor
  · intro halike
    simpa using halike.flags
  · intro hflags
    exact ⟨rfl, rfl, by rw [hrest], by simpa using hflags, hpassphrase, by rw [hrest]⟩

/-- Two messages to publish that differ at most in what is secret, of which one is well formed, both become requests, and the options
that a node makes of these have the same trace exactly if the messages have the same mount flags. -/
theorem options_trace_iff (hm : m.WellFormed) (h : RequestKind.nodePublishVolume.SameButSecrets m m') :
    ∃ r r', Request.NodePublishVolume.ofMessage m = .ok r ∧ Request.NodePublishVolume.ofMessage m' = .ok r' ∧
      ((publishOptions r).trace = (publishOptions r').trace ↔ m.flags = m'.flags) := by
  obtain ⟨r, hr⟩ := (Request.NodePublishVolume.checks_ofMessage m).ok_iff.2 hm
  have halike : Alike _ (Request.NodePublishVolume.ofMessage m) (Request.NodePublishVolume.ofMessage m') := RequestKind.alike_read h
  rw [hr] at halike
  obtain ⟨r', hr', -⟩ := halike.exists_ok
  have hconveys : r.Conveys m := (Request.NodePublishVolume.checks_ofMessage m).post_of_ok hr
  have hconveys' : r'.Conveys m' := (Request.NodePublishVolume.checks_ofMessage m').post_of_ok hr'
  exact ⟨r, r', hr, hr', PublishOptions.trace_eq_iff.trans (sameButPassphrase_publishOptions_iff hconveys hconveys' h)⟩

/-- Another passphrase. -/
theorem options_trace_another_passphrase :
    let m (passphrase : String) : Message.NodePublishVolume :=
      { volumeId := "42", targetPath := "/t", secrets := .ofList [(Plugin.passphraseKey, passphrase)]
        volumeCapability := some ⟨some 1, some (.mount "ext4" ["noatime"])⟩ }
    ((m "first").WellFormed ∧ RequestKind.nodePublishVolume.SameButSecrets (m "first") (m "second") ∧ m "first" ≠ m "second") ∧
      ∃ r r', Request.NodePublishVolume.ofMessage (m "first") = .ok r ∧ Request.NodePublishVolume.ofMessage (m "second") = .ok r' ∧
        (publishOptions r).trace = (publishOptions r').trace := by
  intro m
  have hwell : (m "first").WellFormed := ⟨by decide, ⟨by decide, by unfold IsAbsolute; decide⟩, Or.inl rfl, _, rfl, rfl, rfl⟩
  have hsame : RequestKind.nodePublishVolume.SameButSecrets (m "first") (m "second") :=
    ⟨by decide, .some ⟨rfl, .some (.mount "ext4" rfl)⟩, rfl⟩
  obtain ⟨r, r', hr, hr', hiff⟩ := options_trace_iff hwell hsame
  exact ⟨⟨hwell, hsame, by decide⟩, r, r', hr, hr', hiff.2 rfl⟩

/-- The traces of two requests keep a flag that the traces of their options tell. -/
theorem flag_told_by_options :
    let m (passphrase flag : String) : Message.NodePublishVolume :=
      { volumeId := "42", targetPath := "/t", secrets := .ofList [(Plugin.passphraseKey, passphrase)]
        volumeCapability := some ⟨some 1, some (.mount "ext4" [flag])⟩ }
    let r (passphrase flag : String) : Request.NodePublishVolume :=
      { volumeId := "42", targetPath := ⟨"/t"⟩, secrets := ⟨.ofList [(Plugin.passphraseKey, passphrase)]⟩, publishContext := .empty
        stagingTargetPath := none, readonly := false, volumeContext := .empty
        volumeCapability := ⟨.singleNodeWriter, .mount ⟨some "ext4", ⟨[flag]⟩⟩⟩ }
    RequestKind.nodePublishVolume.SameButSecrets (m "first" "password=x") (m "second" "password=y") ∧
      Request.NodePublishVolume.ofMessage (m "first" "password=x") = .ok (r "first" "password=x") ∧
      Request.NodePublishVolume.ofMessage (m "second" "password=y") = .ok (r "second" "password=y") ∧
      (r "first" "password=x").trace = (r "second" "password=y").trace ∧
      (publishOptions (r "first" "password=x")).trace ≠ (publishOptions (r "second" "password=y")).trace := by
  intro m r
  have hsame : RequestKind.nodePublishVolume.SameButSecrets (m "first" "password=x") (m "second" "password=y") :=
    ⟨by decide, .some ⟨rfl, .some (.mount "ext4" rfl)⟩, rfl⟩
  exact ⟨hsame, by decide, by decide, by decide +kernel, by decide +kernel⟩

end Node

end VolumeDriver
