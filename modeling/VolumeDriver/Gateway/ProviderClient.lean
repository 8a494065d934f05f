import VolumeDriver.Program
import VolumeDriver.Volume

/-!
# The provider's own interface

A mutating call is accepted at once and starts an action, which is polled until it succeeds or fails. A client is any state
that answers the calls and cannot report one action as running for ever (`ProviderClient.patience`). The client that follows
a script of replies is one (`Script.client`).
-/

namespace VolumeDriver

inductive ProviderErrorCode where
  | notFound
  /-- Something with the same unique attribute, the name of a volume, exists. -/
  | uniquenessError
  /-- Another action holds the resource. -/
  | locked
  /-- The server has no free place for a volume. -/
  | volumeLimitReached
  | other
  deriving DecidableEq, Repr

def ProviderErrorCode.name : ProviderErrorCode → String
  | .notFound => "NotFound"
  | .uniquenessError => "UniquenessError"
  | .locked => "Locked"
  | .volumeLimitReached => "VolumeLimitReached"
  | .other => "Other"

structure ProviderError where
  code : ProviderErrorCode
  message : String
  deriving DecidableEq, Repr

def ProviderError.describe (e : ProviderError) : String := e.message ++ " (" ++ e.code.name ++ ")"

structure ActionId where
  val : UInt64
  deriving DecidableEq, Repr

instance : ToString ActionId := ⟨fun id => toString id.val⟩

inductive ActionStatus where
  | running
  | success
  | failed (error : ProviderError)
  deriving DecidableEq, Repr

/-- Work that a mutating call started. -/
structure Action where
  id : ActionId
  status : ActionStatus
  deriving DecidableEq, Repr

/-- A volume to be made by the provider. -/
structure VolumeOrder where
  name : String
  sizeGib : UInt64
  location : String
  labels : StringMap
  deriving DecidableEq

/-- The calls of the provider. -/
inductive ProviderCall where
  | createVolume (order : VolumeOrder)
  | getVolume (id : VolumeId)
  | getVolumeByName (name : String)
  | listVolumes
  | deleteVolume (id : VolumeId)
  | serverExists (id : ServerId)
  | attachVolume (id : VolumeId) (server : ServerId)
  | detachVolume (id : VolumeId)
  | resizeVolume (id : VolumeId) (sizeGib : UInt64)
  | getAction (id : ActionId)
  deriving DecidableEq

/-- What a successful call answers. -/
abbrev ProviderCall.Answer : ProviderCall → Type
  | createVolume _ => Volume × Action
  | getVolume _ | getVolumeByName _ => Option Volume
  | listVolumes => List Volume
  | deleteVolume _ => Unit
  | serverExists _ => Bool
  | attachVolume _ _ | detachVolume _ | resizeVolume _ _ | getAction _ => Action

/-- A state that answers the provider's calls. Each report that an action is still running uses up some of its patience, so
polling comes to an end. -/
structure ProviderClient (σ : Type) where
  answer : (c : ProviderCall) → σ → Except ProviderError c.Answer × σ
  patience : σ → Nat
  patience_lt : ∀ (id : ActionId) (s : σ) (a : Action),
    (answer (.getAction id) s).1 = .ok a → a.status = .running → patience (answer (.getAction id) s).2 < patience s

/-- Replies of a provider, in one queue for each kind of call. -/
structure Script where
  createVolume : List (Except ProviderError (Volume × Action)) := []
  getVolume : List (Except ProviderError (Option Volume)) := []
  getVolumeByName : List (Except ProviderError (Option Volume)) := []
  listVolumes : List (Except ProviderError (List Volume)) := []
  deleteVolume : List (Except ProviderError Unit) := []
  serverExists : List (Except ProviderError Bool) := []
  attachVolume : List (Except ProviderError Action) := []
  detachVolume : List (Except ProviderError Action) := []
  resizeVolume : List (Except ProviderError Action) := []
  getAction : List (Except ProviderError Action) := []

namespace Script

/-- The first reply of a queue, which is an error when the queue is empty. -/
def next {α : Type} : List (Except ProviderError α) → Except ProviderError α × List (Except ProviderError α)
  | [] => (.error ⟨.other, "unscripted"⟩, [])
  | r :: rs => (r, rs)

/-- Adds the replies of a second script at the end of every queue. -/
def append (s t : Script) : Script where
  createVolume := s.createVolume ++ t.createVolume
  getVolume := s.getVolume ++ t.getVolume
  getVolumeByName := s.getVolumeByName ++ t.getVolumeByName
  listVolumes := s.listVolumes ++ t.listVolumes
  deleteVolume := s.deleteVolume ++ t.deleteVolume
  serverExists := s.serverExists ++ t.serverExists
  attachVolume := s.attachVolume ++ t.attachVolume
  detachVolume := s.detachVolume ++ t.detachVolume
  resizeVolume := s.resizeVolume ++ t.resizeVolume
  getAction := s.getAction ++ t.getAction

/-- Answers a call with the next reply of its kind. -/
def answer : (c : ProviderCall) → Script → Except ProviderError c.Answer × Script
  | .createVolume _, s => let (r, q) := next s.createVolume; (r, { s with createVolume := q })
  | .getVolume _, s => let (r, q) := next s.getVolume; (r, { s with getVolume := q })
  | .getVolumeByName _, s => let (r, q) := next s.getVolumeByName; (r, { s with getVolumeByName := q })
  | .listVolumes, s => let (r, q) := next s.listVolumes; (r, { s with listVolumes := q })
  | .deleteVolume _, s => let (r, q) := next s.deleteVolume; (r, { s with deleteVolume := q })
  | .serverExists _, s => let (r, q) := next s.serverExists; (r, { s with serverExists := q })
  | .attachVolume _ _, s => let (r, q) := next s.attachVolume; (r, { s with attachVolume := q })
  | .detachVolume _, s => let (r, q) := next s.detachVolume; (r, { s with detachVolume := q })
  | .resizeVolume _ _, s => let (r, q) := next s.resizeVolume; (r, { s with resizeVolume := q })
  | .getAction _, s => let (r, q) := next s.getAction; (r, { s with getAction := q })

/-- The client that follows a script. An action runs for no more polls than there are replies left. -/
def client : ProviderClient Script where
  answer := answer
  patience s := s.getAction.length
  patience_lt id s a h _ := by
    cases hq : s.getAction with
    | nil => simp [answer, hq, next] at h
    | cons r rs => simp [answer, hq, next]

end Script

end VolumeDriver
