import VolumeDriver.Node
import VolumeDriver.Proofs.Csi.Response
import VolumeDriver.Proofs.Publication.Ownership

/-!
# A passphrase goes to standard inputs and nowhere else

To publish with another passphrase is to make the same calls, but for what the commands that encrypt and open are handed on their
standard input (`handed_publish`): no error, no argument and no decision is made of the passphrase. So with tools to which that
input makes no difference two runs differ in nothing else (`related_of_handing`), and a request that holds another passphrase is
answered the same (`Node.publish_secret`).
-/

namespace VolumeDriver

open Program HostTask

variable {τ α β ε : Type} {p q : String}

/-- The command with another text for its standard input, if it has one. -/
def Command.withInput (q : String) (c : Command) : Command := { c with stdin := c.stdin.map fun _ => q }

def HostEvent.withInput (q : String) : HostEvent → HostEvent
  | ran c o => ran (c.withInput q) o
  | e => e

/-- The commands that take a passphrase take this one, and no other command has a standard input. -/
def Command.Takes (p : String) (c : Command) : Prop := c.stdin = if c.encrypts || c.opens then some p else none

/-- What the tools answer from now on does not depend on standard inputs, although they may keep them. -/
def Toolbox.IgnoresInput (tools : Toolbox τ) (t : τ) : Prop :=
  ∃ R : τ → τ → Prop, R t t ∧ ∀ u v, R u v → ∀ c input,
    (tools.run { c with stdin := input } v).1 = (tools.run c u).1 ∧
      R (tools.run c u).2 (tools.run { c with stdin := input } v).2

/-! ## Programs that hand over another text -/

/-- The call, in which a command that has a standard input is handed another. -/
def handing (q : String) : (c : HostCall) → Program host (Except MountError c.Answer)
  | .run c => ask (I := host) (.run (c.withInput q))
  | c => ask (I := host) c

/-- The task in which every command that has a standard input is handed another. -/
def HostTask.handed (q : String) (t : ExceptT ε (Program host) α) : ExceptT ε (Program host) α :=
  ExceptT.mk (Program.through (handing q) t.run)

namespace HostTask

/-- Two tasks in a row are handed another input one after the other. -/
theorem handed_bind (q : String) (t : ExceptT ε (Program host) α) (f : α → ExceptT ε (Program host) β) :
    handed q (t >>= f) = handed q t >>= fun a => handed q (f a) := by
  show (Program.bind t.run (ExceptT.bindCont f)).through (handing q) = Program.bind (t.run.through (handing q)) _
  rw [through_bind]
  refine congrArg (Program.bind _) (funext fun r => ?_)
  cases r <;> rfl

theorem silent_ask {c : HostCall} (h : c.Runs fun c => c.stdin = none) :
    Only (I := host) (HostCall.Runs fun c => c.stdin = none) (askHost c).run := only_ask h

/-- A task whose commands have no standard input. -/
theorem handed_of_silent {t : ExceptT ε (Program host) α} (h : Only (HostCall.Runs fun c => c.stdin = none) t.run) :
    handed q t = t := by
  refine through_of_only (fun c hc => ?_) h
  cases c with
  | run c =>
    have hsame : c.withInput q = c := by
      obtain ⟨program, args, stdin⟩ := c
      cases show stdin = none from hc
      rfl
    show ask (I := host) (.run (c.withInput q)) = _
    rw [hsame]
  | _ => rfl

end HostTask

namespace Encryption

/-- A command is run with the other input in place of its own. -/
theorem handed_run (c : Command) : handed q (run c) = run (c.withInput q) := by
  rw [run, handed_bind]
  refine congrArg (askHost (.run (c.withInput q)) >>= ·) (funext fun o => ?_)
  have hread : ∀ r : Except MountError CommandOutput,
      handed q (ofExcept r >>= fun _ => (pure () : HostTask Unit)) = ofExcept r >>= fun _ => pure () := by
    rintro (_ | _) <;> rfl
  -- a failure is told by the command line, on which the standard input is not
  exact hread (o.check c)

/-- A mapping is opened with the other passphrase. -/
theorem handed_openMapping (device : Path) (name : String) :
    handed q (openMapping device name p) = openMapping device name q := by
  rw [openMapping_eq, openMapping_eq, handed_bind, handed_of_silent (only_isActive (Q := HostCall.Runs _) rfl)]
  refine congrArg (isActive name >>= ·) (funext fun active => ?_)
  cases active with
  | true => rfl
  | false => exact handed_run (openCommand device name p)

end Encryption

namespace Publication

variable {device target : Path} {o : PublishOptions}

/-- The options with another passphrase. -/
def withPassphrase (o : PublishOptions) (q : String) : PublishOptions := { o with passphrase := some q }

/-- The other passphrase is the secret, unless it is empty. -/
theorem secret_withPassphrase (o : PublishOptions) (h : q ≠ "") : (withPassphrase o q).secret = some q := by
  simp [withPassphrase, PublishOptions.secret, h]

theorem handed_onHost (t : HostTask α) : handed q (onHost t) = onHost (handed q t) := by
  show (Program.bind t.run _).through (handing q) = Program.bind (t.run.through (handing q)) _
  rw [through_bind]
  refine congrArg (Program.bind _) (funext fun r => ?_)
  cases r <;> rfl

/-- A device is encrypted with the other passphrase. -/
theorem handed_encrypt (device : Path) (readonly : Bool) : handed q (encrypt device p readonly) = encrypt device q readonly := by
  have hprobe : handed q (onHost (Disk.format device)) = onHost (Disk.format device) :=
    handed_of_silent (only_onHost (Only.except_bind (silent_ask rfl) fun _ => trivial))
  rw [encrypt, encrypt, handed_bind, hprobe]
  refine congrArg (onHost (Disk.format device) >>= ·) (funext fun found => ?_)
  unfold encryptFor
  cases found.name? with
  | none =>
    cases readonly with
    | true => rfl
    | false => exact (handed_onHost _).trans (congrArg onHost (Encryption.handed_run (Encryption.formatCommand device p)))
  | some format =>
    refine handed_of_silent ?_
    dsimp only
    split <;> trivial

/-- A device is encrypted and opened with the other passphrase. -/
theorem handed_unlock (hp : p ≠ "") (hq : q ≠ "") :
    handed q (unlock device (withPassphrase o p)) = unlock device (withPassphrase o q) := by
  unfold unlock
  rw [secret_withPassphrase o hp, secret_withPassphrase o hq]
  dsimp only
  cases Encryption.mappingName device with
  | none => rfl
  | some name =>
    dsimp only
    rw [handed_bind, handed_onHost, Encryption.handed_openMapping]
    exact congrArg (· >>= _) (handed_encrypt device o.readonly)

/-- What is done to a filesystem takes no standard input. -/
theorem handed_furnish (source : Path) (o : PublishOptions) (arguments : List String) :
    handed q (furnish source o arguments) = furnish source o arguments := by
  refine handed_of_silent ?_
  unfold furnish
  split
  · trivial
  · exact Disk.only_prepare (Q := HostCall.Runs _) rfl rfl

/-- A device is attached with the other passphrase. -/
theorem handed_attach (hp : p ≠ "") (hq : q ≠ "") (arguments : List String) :
    handed q (attach device target (withPassphrase o p) arguments) = attach device target (withPassphrase o q) arguments := by
  have hmounted : mountedDevice device (withPassphrase o p) = mountedDevice device (withPassphrase o q) := by
    unfold mountedDevice
    rw [secret_withPassphrase o hp, secret_withPassphrase o hq]
    cases Encryption.mappingName device <;> rfl
  have hmount : ∀ m, handed q (onHost (askHost (.mount m))) = onHost (askHost (.mount m)) := fun m =>
    handed_of_silent (only_onHost (silent_ask trivial))
  rw [attach_eq, attach_eq, makeReady, makeReady, handed_bind, handed_bind, handed_unlock hp hq, handed_onHost, hmounted,
    handed_furnish, hmount]
  rfl

/-- To publish with another passphrase is to hand over another text. -/
theorem handed_publish (hp : p ≠ "") (hq : q ≠ "") :
    handed q (publish device target (withPassphrase o p)) = publish device target (withPassphrase o q) := by
  cases harguments : o.formatArguments with
  | error e =>
    have hfails : ∀ x, publish device target (withPassphrase o x) = throw e := fun x => by
      rw [publish, show (withPassphrase o x).formatArguments = .error e from harguments]
    rw [hfails, hfails]
    rfl
  | ok arguments =>
    have hparts : ∀ x, publish device target (withPassphrase o x) =
        onHost (prepareTarget target o.block) >>= fun free =>
          if free then attach device target (withPassphrase o x) arguments else pure () :=
      fun x => publish_eq (o := withPassphrase o x) harguments
    have hprepare : handed q (onHost (prepareTarget target o.block)) = onHost (prepareTarget target o.block) :=
      handed_of_silent (only_onHost ((settled_prepareTarget target o.block).mono fun _ => HostCall.Settled.runs))
    rw [hparts, hparts, handed_bind, hprepare]
    refine congrArg (onHost (prepareTarget target o.block) >>= ·) (funext fun free => ?_)
    cases free with
    | true => exact handed_attach hp hq arguments
    | false => rfl

/-- The commands of a publish take its passphrase where they take one. -/
theorem takes_publish (hp : p ≠ "") :
    Only (HostCall.Runs (Command.Takes p)) (publish device target (withPassphrase o p)).run := by
  refine only_publish (Q := HostCall.Runs _) (fun _ => HostCall.Settled.runs) ?_ (fun _ => rfl) ?_ fun _ => trivial
  · intro passphrase name hsecret _
    cases (secret_withPassphrase o hp).symm.trans hsecret
    exact ⟨rfl, rfl, rfl⟩
  · intro source fsType arguments
    obtain ⟨_, _, hprogram⟩ := Devices.maker_program source fsType arguments
    show _ = if (Disk.maker source fsType arguments).encrypts || (Disk.maker source fsType arguments).opens then some p else none
    rw [Command.encrypts_maker, (Command.handles_none hprogram).1]
    rfl

end Publication

/-! ## Two runs -/

/-- Two hosts that did the same since, but for the standard inputs of the commands that take a passphrase; and so did their tools. -/
def AlikeSince (R : τ → τ → Prop) (p q : String) (s u v : MemoryHost τ) : Prop :=
  ∃ events, (∀ c o, .ran c o ∈ events → c.Takes p) ∧ u.log = s.log ++ events ∧ R u.tools v.tools ∧
    v = { u with tools := v.tools, log := s.log ++ events.map (HostEvent.withInput q) }

section Runs

variable {tools : Toolbox τ} {R : τ → τ → Prop} {s u v : MemoryHost τ}

/-- A call that runs no command is replied to and logged whatever the tools are and whatever was logged before. -/
theorem answer_of_quiet (tools : Toolbox τ) {c : HostCall} (hc : c.Runs fun _ => False) (u : MemoryHost τ) (t : τ) (log : List HostEvent) :
    ∃ events, (∀ x ∈ events, x.command? = none) ∧ (u.answer tools c).2.log = u.log ++ events ∧
      (u.answer tools c).2.tools = u.tools ∧
      MemoryHost.answer tools c { u with tools := t, log := log } =
        ((u.answer tools c).1, { (u.answer tools c).2 with tools := t, log := log ++ events }) := by
  have hnothing : ∀ xs : List HostEvent, xs = xs ++ [] := fun xs => (List.append_nil xs).symm
  cases c with
  | run c => exact hc.elim
  | mount m =>
    obtain ⟨source, target, fsType, options, sensitive⟩ := m
    cases source with
    | none => exact ⟨[], by simp, hnothing _, rfl, by rw [← hnothing]; rfl⟩
    | some source => exact ⟨[.mounted (u.listedDevice source options) (u.resolve target) fsType], by simp [HostEvent.command?], rfl, rfl, rfl⟩
  | unmount p patience =>
    show ∃ events, _ ∧ (u.unmount p).2.log = _ ∧ (u.unmount p).2.tools = _ ∧
      MemoryHost.unmount { u with tools := t, log := log } p = ((u.unmount p).1, { (u.unmount p).2 with tools := t, log := log ++ events })
    have hresolve : MemoryHost.resolve { u with tools := t, log := log } p = u.resolve p := rfl
    unfold MemoryHost.unmount
    dsimp only
    rw [hresolve]
    split
    · exact ⟨[], by simp, hnothing _, rfl, by rw [← hnothing]⟩
    · exact ⟨[.unmounted (u.resolve p)], by simp [HostEvent.command?], rfl, rfl, rfl⟩
  | _ => exact ⟨[], by simp, hnothing _, rfl, by rw [← hnothing]; rfl⟩

/-- Hosts stay alike when both do the same once more. -/
theorem AlikeSince.extend (h : AlikeSince R p q s u v) (new : List HostEvent) (hnew : ∀ c o, .ran c o ∈ new → c.Takes p)
    {u' v' : MemoryHost τ} (hlog : u'.log = u.log ++ new) (htools : R u'.tools v'.tools)
    (hv : v' = { u' with tools := v'.tools, log := v.log ++ new.map (HostEvent.withInput q) }) : AlikeSince R p q s u' v' := by
  obtain ⟨events, hevents, hu, _, hsame⟩ := h
  have hvlog : v.log = s.log ++ events.map (HostEvent.withInput q) := congrArg MemoryHost.log hsame
  refine ⟨events ++ new, fun c o hran => (List.mem_append.1 hran).elim (hevents c o) (hnew c o), ?_, htools, ?_⟩
  · rw [hlog, hu, List.append_assoc]
  · rwa [List.map_append, ← List.append_assoc, ← hvlog]

/-- Each call is replied to alike. -/
theorem AlikeSince.call (hR : ∀ t t', R t t' → ∀ c input,
      (tools.run { c with stdin := input } t').1 = (tools.run c t).1 ∧ R (tools.run c t).2 (tools.run { c with stdin := input } t').2)
    {c : HostCall} (hc : c.Runs (Command.Takes p)) (h : AlikeSince R p q s u v) :
    (Program.run (I := host) (MemoryHost.answer tools) (handing q c) v).1 = (MemoryHost.answer tools c u).1 ∧
      AlikeSince R p q s (MemoryHost.answer tools c u).2 (Program.run (I := host) (MemoryHost.answer tools) (handing q c) v).2 := by
  have ⟨_, _, _, hrelated, hsame⟩ := h
  have hv : v = { u with tools := v.tools, log := v.log } := by rw [hsame]
  by_cases hquiet : c.Runs fun _ => False
  · have hrun : Program.run (I := host) (MemoryHost.answer tools) (handing q c) v = MemoryHost.answer tools c v := by
      cases c with
      | run c => exact hquiet.elim
      | _ => rfl
    obtain ⟨new, hnew, hadded, htools, hanswer⟩ := answer_of_quiet tools hquiet u v.tools v.log
    have hinput : new.map (HostEvent.withInput q) = new := by
      refine (List.map_congr_left fun x hx => ?_).trans new.map_id
      cases x with
      | ran c o => nomatch hnew _ hx
      | _ => rfl
    rw [← hv] at hanswer
    rw [hrun, hanswer]
    refine ⟨rfl, h.extend new (fun c o hran => nomatch hnew _ hran) hadded ?_ ?_⟩
    · rwa [htools]
    · rw [hinput]
  · cases c with
    | run c =>
      obtain ⟨hreply, hnext⟩ := hR _ _ hrelated c (c.stdin.map fun _ => q)
      refine ⟨congrArg Except.ok hreply, h.extend [.ran c (tools.run c u.tools).1] ?_ rfl hnext ?_⟩
      · rintro _ _ hran
        cases List.mem_singleton.1 hran
        exact hc
      · have hlogged : (Program.run (I := host) (MemoryHost.answer tools) (handing q (.run c)) v).2 =
            { v with
              tools := (tools.run (c.withInput q) v.tools).2
              log := v.log ++ [.ran (c.withInput q) (tools.run (c.withInput q) v.tools).1] } := rfl
        have houtput : (tools.run (c.withInput q) v.tools).1 = (tools.run c u.tools).1 := hreply
        rw [hlogged, houtput, hsame]
        rfl
    | _ => exact absurd trivial hquiet

/-- So is every run. -/
theorem alikeSince_run (hR : ∀ t t', R t t' → ∀ c input,
      (tools.run { c with stdin := input } t').1 = (tools.run c t).1 ∧ R (tools.run c t).2 (tools.run { c with stdin := input } t').2)
    {t : Program host α} (ht : t.Only (HostCall.Runs (Command.Takes p))) (s : MemoryHost τ) (hs : R s.tools s.tools) :
    (Program.run (I := host) (MemoryHost.answer tools) (t.through (handing q)) s).1 =
        (Program.run (I := host) (MemoryHost.answer tools) t s).1 ∧
      AlikeSince R p q s (Program.run (I := host) (MemoryHost.answer tools) t s).2
        (Program.run (I := host) (MemoryHost.answer tools) (t.through (handing q)) s).2 := by
  rw [run_through]
  exact run_related (R := AlikeSince R p q s) (fun c u v hc h => h.call hR hc) ht
    ⟨[], nofun, (List.append_nil _).symm, hs, by rw [List.map_nil, List.append_nil]⟩

end Runs

/-! ## Requests to a node -/

open Csi

/-- The request, with this passphrase among its secrets. -/
def Csi.Message.NodePublishVolume.withPassphrase (m : Message.NodePublishVolume) (p : String) : Message.NodePublishVolume :=
  { m with secrets := m.secrets.insert Plugin.passphraseKey p }

def Csi.Request.NodePublishVolume.withPassphrase (r : Request.NodePublishVolume) (p : String) : Request.NodePublishVolume :=
  { r with secrets := ⟨r.secrets.entries.insert Plugin.passphraseKey p⟩ }

/-- What is checked of a request does not depend on its passphrase. -/
theorem Csi.Request.NodePublishVolume.ofMessage_withPassphrase (m : Message.NodePublishVolume) (p : String) :
    ofMessage (m.withPassphrase p) = (ofMessage m).map fun r => r.withPassphrase p := by
  unfold ofMessage Message.NodePublishVolume.withPassphrase
  dsimp only
  cases require m.volumeId "NodePublishVolumeRequest.volume_id is empty" with
  | error e => rfl
  | ok volumeId =>
    cases requireAbsolute m.targetPath "NodePublishVolumeRequest.target_path is empty"
        "NodePublishVolumeRequest.target_path is not absolute" with
    | error e => rfl
    | ok target =>
      cases optionalAbsolute m.stagingTargetPath "NodePublishVolumeRequest.staging_target_path is not absolute" with
      | error e => rfl
      | ok staging =>
        cases requireCapability m.volumeCapability "NodePublishVolumeRequest.volume_capability missing" <;> rfl

namespace Node

/-- A request with another passphrase asks for the same options with that one. -/
theorem publishOptions_withPassphrase (r : Request.NodePublishVolume) (p : String) :
    publishOptions (r.withPassphrase p) = Publication.withPassphrase (publishOptions r) p := by
  have hpassphrase : (r.withPassphrase p).secrets.entries.get? Plugin.passphraseKey = some p := by
    simp [Request.NodePublishVolume.withPassphrase]
  unfold publishOptions
  rw [hpassphrase]
  unfold Request.NodePublishVolume.withPassphrase
  dsimp only
  cases r.volumeCapability.access <;> rfl

/-- An answer is given through a layer as the task comes out through it. -/
theorem through_answer (layer : (c : HostCall) → Program host (Except MountError c.Answer)) (t : Publication.Task α) :
    (answer t).through layer = answer (ExceptT.mk (t.run.through layer)) := by
  show (Program.bind t.run _).through layer = Program.bind (t.run.through layer) _
  rw [through_bind]
  refine congrArg (Program.bind _) (funext fun r => ?_)
  cases r <;> rfl

/-- A request with another passphrase is answered by the same program, which hands over another text. -/
theorem publishVolume_handed (r : Request.NodePublishVolume) (hp : p ≠ "") (hq : q ≠ "") :
    Program.through (handing q) (publishVolume (r.withPassphrase p)) = publishVolume (r.withPassphrase q) := by
  have hdevice : ∀ x, device? (r.withPassphrase x) = device? r := fun _ => rfl
  unfold publishVolume
  rw [hdevice, hdevice]
  cases device? r with
  | none => rfl
  | some device =>
    dsimp only
    rw [publishOptions_withPassphrase, publishOptions_withPassphrase, through_answer]
    exact congrArg answer (Publication.handed_publish hp hq)

/-- To publish a volume hands its passphrase to the commands that take one, and to no other. -/
theorem takes_publishVolume (r : Request.NodePublishVolume) (hp : p ≠ "") :
    (publishVolume (r.withPassphrase p)).Only (HostCall.Runs (Command.Takes p)) := by
  unfold publishVolume
  split
  · trivial
  · rw [publishOptions_withPassphrase]
    refine Only.bind (Publication.takes_publish hp) fun r => ?_
    cases r <;> trivial

/-- What a node answers to a request to publish a volume, and its host then. -/
def published (n : Node) (tools : Toolbox τ) (m : Message.NodePublishVolume) (s : MemoryHost τ) :
    Except Status NodeReply × MemoryHost τ :=
  Program.run (I := host) (MemoryHost.answer tools) (n.service.serve (.nodePublishVolume m)) s

/-- Two answers, and hosts that they leave, that are the same but for what was handed to commands: in place of the first passphrase
the second, which only commands that encrypt or open took, and these did. -/
structure SameButInput (p q : String) (s : MemoryHost τ) (x y : Except Status NodeReply × MemoryHost τ) : Prop where
  answer : y.1 = x.1
  entries : y.2.entries = x.2.entries
  files : y.2.files = x.2.files
  log : ∃ events, x.2.log = s.log ++ events ∧ y.2.log = s.log ++ events.map (HostEvent.withInput q) ∧
    ∀ c o, .ran c o ∈ events → c.stdin = if c.encrypts || c.opens then some p else none

/-- With tools that do not heed their standard input, a request to publish is answered the same with any passphrase, and the same
is done but for what is handed to the commands that take one. -/
theorem published_sameButInput (n : Node) (m : Message.NodePublishVolume) {tools : Toolbox τ} {s : MemoryHost τ} (hp : p ≠ "")
    (hq : q ≠ "") (h : tools.IgnoresInput s.tools) :
    SameButInput p q s (n.published tools (m.withPassphrase p) s) (n.published tools (m.withPassphrase q) s) := by
  obtain ⟨R, hs, hR⟩ := h
  have hserve : ∀ x, n.service.serve (.nodePublishVolume (m.withPassphrase x)) =
      respond Refusal.fullStatus (Request.NodePublishVolume.ofMessage m) (fun r => publishVolume (r.withPassphrase x))
        fun _ => .ok .published := by
    intro x
    show respond _ (Request.NodePublishVolume.ofMessage (m.withPassphrase x)) publishVolume _ = _
    rw [Request.NodePublishVolume.ofMessage_withPassphrase]
    cases Request.NodePublishVolume.ofMessage m <;> rfl
  have hhanded : Program.through (handing q) (n.service.serve (.nodePublishVolume (m.withPassphrase p))) =
      n.service.serve (.nodePublishVolume (m.withPassphrase q)) := by
    rw [hserve, hserve, respond_through]
    simp only [publishVolume_handed _ hp hq]
  have htakes : (n.service.serve (.nodePublishVolume (m.withPassphrase p))).Only (HostCall.Runs (Command.Takes p)) := by
    rw [hserve]
    exact only_respond fun r _ => takes_publishVolume r hp
  obtain ⟨hanswer, events, hevents, hlog, _, hsame⟩ := alikeSince_run hR htakes s hs
  rw [hhanded] at hanswer hsame
  exact
    { answer := hanswer
      entries := (congrArg MemoryHost.entries hsame :)
      files := (congrArg MemoryHost.files hsame :)
      log := ⟨events, hlog, (congrArg MemoryHost.log hsame :), hevents⟩ }

/-- A blank device is encrypted, opened and mounted. -/
theorem published_sameButInput_blank :
    let n : Node := ⟨"7", "fsn1", 16⟩
    let m : Message.NodePublishVolume :=
      { volumeId := "42", targetPath := "/t", publishContext := .ofList [("devicePath", "/dev/sdb")]
        volumeCapability := some ⟨some 1, some (.mount "" [])⟩ }
    let s : MemoryHost Publication.MappingTools := { tools := {} }
    ("first" ≠ "" ∧ "second" ≠ "" ∧ Publication.MappingTools.toolbox.IgnoresInput s.tools) ∧
      SameButInput "first" "second" s
        (n.published Publication.MappingTools.toolbox (m.withPassphrase "first") s)
        (n.published Publication.MappingTools.toolbox (m.withPassphrase "second") s) := by
  intro n m s
  have hignores : Publication.MappingTools.toolbox.IgnoresInput s.tools := by
    refine ⟨Eq, rfl, ?_⟩
    rintro t _ rfl c input
    exact ⟨rfl, rfl⟩
  exact ⟨⟨by decide, by decide, hignores⟩, published_sameButInput n m (by decide) (by decide) hignores⟩

end Node

end VolumeDriver
