import VolumeDriver.Controller
import VolumeDriver.Proofs.Provider.Shape

/-!
# When a volume is said to be missing

The provider says that something was not found in reply to a call that names a volume, in reply to a poll of an action, or as the
error of an action that failed. A gateway call on a volume takes all of these to mean that the volume is missing
(`Session.volumeNotFound_iff`), so a volume is said to be missing also when it is there and its action was not found
(`Session.missing_action_taken_for_volume`). Making a volume answers so in no case.
-/

namespace VolumeDriver.Provider

open Program

/-! ## Replies -/

/-- The reply is the error that something was not found. -/
def isNotFound {α : Type} : Except ProviderError α → Bool
  | .ok _ => false
  | .error e => e.code = .notFound

/-- The reply to a look for a volume says that there is none. -/
def lacksVolume : Except ProviderError (Option Volume) → Bool
  | .ok v => v.isNone
  | .error e => e.code = .notFound

/-- The action failed because something was not found. -/
def failsNotFound (a : Action) : Bool :=
  match a.status with
  | .failed e => e.code = .notFound
  | _ => false

/-- The reply tells of an action that failed because something was not found. -/
def tellsNotFound : Except ProviderError Action → Bool
  | .ok a => failsNotFound a
  | .error _ => false

/-- A call that names a volume is told that there is no such volume. -/
def saysVolumeMissing : ProviderExchange → Bool
  | ⟨.getVolume _, reply⟩ | ⟨.getVolumeByName _, reply⟩ => lacksVolume reply
  | ⟨.deleteVolume _, reply⟩ => isNotFound reply
  | ⟨.attachVolume _ _, reply⟩ | ⟨.detachVolume _, reply⟩ | ⟨.resizeVolume _ _, reply⟩ => isNotFound reply
  | _ => false

/-- An action on a volume is not found, or it failed because something was not found. -/
def saysActionMissing : ProviderExchange → Bool
  | ⟨.getAction _, reply⟩ => isNotFound reply || tellsNotFound reply
  | ⟨.attachVolume _ _, reply⟩ | ⟨.detachVolume _, reply⟩ | ⟨.resizeVolume _ _, reply⟩ => tellsNotFound reply
  | _ => false

/-- Something was not found: a volume, or an action on one. -/
def saysMissing (x : ProviderExchange) : Bool := saysVolumeMissing x || saysActionMissing x

section Replies

variable {α : Type} (e : ProviderError) (id : VolumeId)

@[simp]
theorem isNotFound_ok (a : α) : isNotFound (.ok a) = false := rfl

@[simp]
theorem isNotFound_error : isNotFound (.error e : Except ProviderError α) = decide (e.code = .notFound) := rfl

@[simp]
theorem lacksVolume_ok (v : Option Volume) : lacksVolume (.ok v) = v.isNone := rfl

@[simp]
theorem lacksVolume_error : lacksVolume (.error e) = decide (e.code = .notFound) := rfl

@[simp]
theorem tellsNotFound_ok (a : Action) : tellsNotFound (.ok a) = failsNotFound a := rfl

@[simp]
theorem tellsNotFound_error : tellsNotFound (.error e) = false := rfl

/-- A look for a volume by its number says that something is missing if it finds none. -/
@[simp]
theorem saysMissing_getVolume (reply : Except ProviderError (Option Volume)) :
    saysMissing ⟨.getVolume id, reply⟩ = lacksVolume reply := Bool.or_false _

/-- A look for a volume by its name says that something is missing if it finds none. -/
@[simp]
theorem saysMissing_getVolumeByName (name : String) (reply : Except ProviderError (Option Volume)) :
    saysMissing ⟨.getVolumeByName name, reply⟩ = lacksVolume reply := Bool.or_false _

/-- A list of volumes never says that something is missing. -/
@[simp]
theorem saysMissing_listVolumes (reply : Except ProviderError (List Volume)) : saysMissing ⟨.listVolumes, reply⟩ = false := rfl

/-- A look for a server says nothing of volumes. -/
@[simp]
theorem saysMissing_serverExists (server : ServerId) (reply : Except ProviderError Bool) :
    saysMissing ⟨.serverExists server, reply⟩ = false := rfl

/-- A deletion says that something is missing if its error does. -/
@[simp]
theorem saysMissing_deleteVolume (reply : Except ProviderError Unit) :
    saysMissing ⟨.deleteVolume id, reply⟩ = isNotFound reply := Bool.or_false _

/-- An attach says that something is missing with its error, or with the action that it starts. -/
@[simp]
theorem saysMissing_attachVolume (server : ServerId) (reply : Except ProviderError Action) :
    saysMissing ⟨.attachVolume id server, reply⟩ = (isNotFound reply || tellsNotFound reply) := rfl

@[simp]
theorem saysMissing_detachVolume (reply : Except ProviderError Action) :
    saysMissing ⟨.detachVolume id, reply⟩ = (isNotFound reply || tellsNotFound reply) := rfl

@[simp]
theorem saysMissing_resizeVolume (sizeGib : UInt64) (reply : Except ProviderError Action) :
    saysMissing ⟨.resizeVolume id sizeGib, reply⟩ = (isNotFound reply || tellsNotFound reply) := rfl

/-- A poll says that something is missing with its error, or with the action that it tells of. -/
@[simp]
theorem saysMissing_getAction (action : ActionId) (reply : Except ProviderError Action) :
    saysMissing ⟨.getAction action, reply⟩ = (isNotFound reply || tellsNotFound reply) := rfl

end Replies

/-! ## Translation -/

/-- An error is translated as a missing volume where something was not found, in a call where this means a volume. -/
theorem translate_eq_volumeNotFound_iff {missing : Option VolumeError} {e : ProviderError} :
    translate missing e = .volumeNotFound ↔ missing = some .volumeNotFound ∧ e.code = .notFound := by
  unfold translate
  cases hcode : e.code with
  | notFound => cases missing <;> simp
  | _ => simp

/-- A call on a volume is answered with a missing volume exactly if something was not found. -/
theorem onVolume_eq_iff {α : Type} {reply : Except ProviderError α} :
    onVolume reply = .error .volumeNotFound ↔ isNotFound reply = true := by
  cases reply <;> simp [onVolume, translate_eq_volumeNotFound_iff]

/-- Any other call is never answered with a missing volume. -/
theorem onOther_ne {α : Type} (reply : Except ProviderError α) : onOther reply ≠ .error .volumeNotFound := by
  cases reply <;> simp [onOther, translate_eq_volumeNotFound_iff]

/-- A look for a volume is answered with a missing volume exactly if there is none. -/
theorem found_eq_iff {reply : Except ProviderError (Option Volume)} :
    found reply = .error .volumeNotFound ↔ lacksVolume reply = true := by
  rcases reply with e | _ | v <;> simp [found, translate_eq_volumeNotFound_iff]

/-- What a look for a volume is refused with. -/
theorem lacksVolume_iff_of_found {reply : Except ProviderError (Option Volume)} {e : VolumeError} (h : found reply = .error e) :
    lacksVolume reply = true ↔ e = .volumeNotFound := by
  rw [← found_eq_iff, h, Except.error.injEq]

/-! ## Waiting -/

variable {policy : Policy}

/-- Polling comes to "not found" exactly if a poll said so. -/
theorem Polls.isNotFound_iff {id : ActionId} {polls : List ProviderExchange} {outcome : Except ProviderError Unit}
    (h : Polls policy id polls (some outcome)) : isNotFound outcome = true ↔ ∃ x ∈ polls, saysMissing x = true := by
  generalize hr : some outcome = r at h
  induction h with
  | refused e =>
    cases hr
    simp
  | succeeded a h =>
    cases hr
    simp [failsNotFound, h]
  | failed a e h =>
    cases hr
    simp [failsNotFound, h]
  | gaveUp a h _ =>
    cases hr
    simp [failsNotFound, h, Session.unfinished]
  | abandoned a h => cases hr
  | again a h _ ih =>
    rw [ih hr]
    simp [failsNotFound, h]

/-- To wait for an action ends in something not found exactly if the action or a poll said so. -/
theorem Awaits.isNotFound_iff {a : Action} {polls : List ProviderExchange} {outcome : Except ProviderError Unit}
    (h : Awaits policy a polls (some outcome)) :
    isNotFound outcome = true ↔ failsNotFound a = true ∨ ∃ x ∈ polls, saysMissing x = true := by
  cases h with
  | succeeded h => simp [failsNotFound, h]
  | failed e h => simp [failsNotFound, h]
  | polled h polls => simp [polls.isNotFound_iff, failsNotFound, h]

/-- A call that starts an action on a volume answers that the volume is missing exactly if it was told so, or the action was
not found. -/
theorem Settled.eq_volumeNotFound_iff {reply : Except ProviderError Action} {polls : List ProviderExchange}
    {r : Option (Except VolumeError Unit)} (h : Settled policy reply polls r) :
    r = some (.error .volumeNotFound) ↔
      r ≠ none ∧ ((isNotFound reply = true ∨ tellsNotFound reply = true) ∨ ∃ x ∈ polls, saysMissing x = true) := by
  cases h with
  | refused e => simp [translate_eq_volumeNotFound_iff]
  | @awaited a polls outcome h =>
    cases outcome with
    | none => simp
    | some outcome => simp [onVolume_eq_iff, h.isNotFound_iff]

/-! ## Gateway calls -/

/-- A gateway call answers that a volume is missing exactly if it is not to make one, the caller waits for the answer, and it was
told of a volume or of an action that was not found. -/
theorem Shape.eq_volumeNotFound_iff {c : GatewayCall} {xs : List ProviderExchange} {r : Option (Except VolumeError c.Answer)}
    (h : Shape policy c xs r) :
    r = some (.error .volumeNotFound) ↔ c.op ≠ .create ∧ r ≠ none ∧ ∃ x ∈ xs, saysMissing x = true := by
  cases h with
  | notCreated o e => simp [translate_eq_volumeNotFound_iff, GatewayCall.op]
  | created o v a h => simp [GatewayCall.op]
  | undone o v a h reply => simp [translate_eq_volumeNotFound_iff, GatewayCall.op]
  | creationLeft o v a h => simp
  | readById id reply => simp [found_eq_iff, GatewayCall.op]
  | readByName name reply => simp [found_eq_iff, GatewayCall.op]
  | listed reply => simp [onOther_ne]
  | notFoundToDelete id h => simp [lacksVolume_iff_of_found h, GatewayCall.op]
  | heldFromDeletion id h => simp
  | deleted id h reply => simp [onVolume_eq_iff, GatewayCall.op]
  | notFoundToAttach id server h => simp [lacksVolume_iff_of_found h, GatewayCall.op]
  | serverUnread id server v e => simp [translate_eq_volumeNotFound_iff]
  | noServer id server v => simp
  | heldFromAttachment id server h => simp
  | attached id server h settled => simp [settled.eq_volumeNotFound_iff, GatewayCall.op]
  | attachmentLeft id server h a => simp
  | notFoundToDetach id server h => simp [lacksVolume_iff_of_found h, GatewayCall.op]
  | notHeld id server h => simp
  | heldElsewhere id h other => simp
  | detached id server h same settled => simp [settled.eq_volumeNotFound_iff, GatewayCall.op]
  | notFoundToGrow id sizeGib h => simp [lacksVolume_iff_of_found h, GatewayCall.op]
  | largeEnough id h => simp
  | grown id h settled => simp [settled.eq_volumeNotFound_iff, GatewayCall.op]

namespace Session

variable {σ : Type} (client : ProviderClient σ) (policy : Policy)

/-- Whatever the client replies, a gateway call answers that a volume is missing exactly if it is not to make one, the caller
waits for the answer, and some reply told of a volume or of an action that was not found. -/
theorem volumeNotFound_iff (c : GatewayCall) (s : Session σ) :
    (run client policy (layer policy c) s).1 = some (.error .volumeNotFound) ↔
      c.op ≠ .create ∧ (run client policy (layer policy c) s).1 ≠ none ∧
        ∃ x ∈ transcript client policy (layer policy c) s, saysMissing x = true :=
  (shape_run client policy c s).eq_volumeNotFound_iff

/-- A volume that the provider holds, and that is detached with an action which the provider does not know when it is polled. -/
def forgottenAction : Session Script where
  client := {
    getVolume := [.ok (some ⟨⟨5⟩, "pvc-5", 10, "fsn1", "/dev/sd5", some ⟨3⟩⟩)]
    detachVolume := [.ok ⟨⟨9⟩, .running⟩]
    getAction := [.error ⟨.notFound, "no action"⟩] }

/-- The volume is said to be missing, and no call that names a volume was told so. -/
theorem missing_action_taken_for_volume :
    (run Script.client {} (layer {} (.detach ⟨5⟩ none)) forgottenAction).1 = some (.error .volumeNotFound) ∧
      ∀ x ∈ transcript Script.client {} (layer {} (.detach ⟨5⟩ none)) forgottenAction, saysVolumeMissing x = false := by
  have hrun : run Script.client.recorded {} (layer {} (.detach ⟨5⟩ none)) forgottenAction.record =
      (some (.error .volumeNotFound),
        { client := ({}, [⟨.getVolume ⟨5⟩, .ok (some ⟨⟨5⟩, "pvc-5", 10, "fsn1", "/dev/sd5", some ⟨3⟩⟩)⟩,
            ⟨.detachVolume ⟨5⟩, .ok ⟨⟨9⟩, .running⟩⟩, ⟨.getAction ⟨9⟩, .error ⟨.notFound, "no action"⟩⟩])
          calls := [.getVolume ⟨5⟩, .detachVolume ⟨5⟩, .getAction ⟨9⟩] }) := by
    simp [Session.run, answer, Session.ask, record, forgottenAction, ProviderClient.recorded, Script.client, Script.answer,
      Script.next, layer, detach, getById, Provider.ask, Program.ask, await, found, onVolume, translate, watch_eq]
  constructor
  · have hforget := run_forget Script.client {} (layer {} (.detach ⟨5⟩ none)) forgottenAction.record
    rw [hrun] at hforget
    exact congrArg Prod.fst hforget
  · rw [transcript, hrun]
    simp [saysVolumeMissing, isNotFound, lacksVolume]

/-- Unpublishing a volume takes this to mean that the volume is gone. -/
theorem unpublished_of_volumeNotFound {r : Csi.Request.ControllerUnpublishVolume} {id : VolumeId} {server : Option ServerId}
    (hid : VolumeId.ofString r.volumeId = .ok id) (hserver : Controller.namedServer r.nodeId = .ok server) {s : Session σ}
    (h : (run client policy (layer policy (.detach id server)) s).1 = some (.error .volumeNotFound)) :
    (run client policy (((Controller.unpublishVolume r).through Idempotent.layer).through (layer policy)) s).1 =
      some (.ok ()) := by
  rw [Controller.unpublishVolume, hid, hserver]
  show (run client policy ((layer policy (.detach id server)).bind _) s).1 = _
  rw [run_bind]
  rcases hrun : run client policy (layer policy (.detach id server)) s with ⟨answer, t⟩
  rw [hrun] at h
  obtain rfl : answer = some (.error .volumeNotFound) := h
  rfl

end Session

end VolumeDriver.Provider
