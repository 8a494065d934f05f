import VolumeDriver.Proofs.Provider.Transcript

/-!
# The shape of each gateway call

A gateway call that changes a volume looks at it first, and goes no further if what it sees does not allow the change; then it
makes its one changing call and waits for the action. `Shape` has the transcripts of each call, with what the call answers; a
session with a client, whatever it replies, has one of them (`Session.shape_run`).
-/

namespace VolumeDriver.Provider

open Program

/-- What a volume is ordered with. -/
def orderOf (o : CreateOptions) : VolumeOrder := ⟨o.name, o.minSizeGib, o.location, o.labels⟩

/-- What follows the reply to a call on a volume that starts an action: the polls of the action, and the answer. -/
inductive Settled (policy : Policy) :
    Except ProviderError Action → List ProviderExchange → Option (Except VolumeError Unit) → Prop
  | refused (e : ProviderError) : Settled policy (.error e) [] (some (.error (translate (some .volumeNotFound) e)))
  | awaited {a : Action} {polls : List ProviderExchange} {outcome : Option (Except ProviderError Unit)}
      (h : Awaits policy a polls outcome) : Settled policy (.ok a) polls (outcome.map onVolume)

/-- The transcripts of a gateway call, each with the answer; with none, if the caller goes away. -/
inductive Shape (policy : Policy) :
    (c : GatewayCall) → List ProviderExchange → Option (Except VolumeError c.Answer) → Prop
  | notCreated (o : CreateOptions) (e : ProviderError) :
      Shape policy (.create o) [⟨.createVolume (orderOf o), .error e⟩] (some (.error (translate none e)))
  | created (o : CreateOptions) (v : Volume) (a : Action) {polls : List ProviderExchange}
      (h : Awaits policy a polls (some (.ok ()))) :
      Shape policy (.create o) (⟨.createVolume (orderOf o), .ok (v, a)⟩ :: polls) (some (.ok v))
  /-- The making of the volume failed, and it is deleted. -/
  | undone (o : CreateOptions) (v : Volume) (a : Action) {polls : List ProviderExchange} {e : ProviderError}
      (h : Awaits policy a polls (some (.error e))) (reply : Except ProviderError Unit) :
      Shape policy (.create o) (⟨.createVolume (orderOf o), .ok (v, a)⟩ :: (polls ++ [⟨.deleteVolume v.id, reply⟩]))
        (some (.error (translate none e)))
  | creationLeft (o : CreateOptions) (v : Volume) (a : Action) {polls : List ProviderExchange}
      (h : Awaits policy a polls none) :
      Shape policy (.create o) (⟨.createVolume (orderOf o), .ok (v, a)⟩ :: polls) none
  | readById (id : VolumeId) (reply : Except ProviderError (Option Volume)) :
      Shape policy (.getById id) [⟨.getVolume id, reply⟩] (some (found reply))
  | readByName (name : String) (reply : Except ProviderError (Option Volume)) :
      Shape policy (.getByName name) [⟨.getVolumeByName name, reply⟩] (some (found reply))
  | listed (reply : Except ProviderError (List Volume)) :
      Shape policy .all [⟨.listVolumes, reply⟩] (some (onOther reply))
  | notFoundToDelete (id : VolumeId) {reply : Except ProviderError (Option Volume)} {e : VolumeError}
      (h : found reply = .error e) : Shape policy (.delete id) [⟨.getVolume id, reply⟩] (some (.error e))
  | heldFromDeletion (id : VolumeId) {v : Volume} (h : v.attachedServer ≠ none) :
      Shape policy (.delete id) [⟨.getVolume id, .ok (some v)⟩] (some (.error .attached))
  | deleted (id : VolumeId) {v : Volume} (h : v.attachedServer = none) (reply : Except ProviderError Unit) :
      Shape policy (.delete id) [⟨.getVolume id, .ok (some v)⟩, ⟨.deleteVolume id, reply⟩] (some (onVolume reply))
  | notFoundToAttach (id : VolumeId) (server : ServerId) {reply : Except ProviderError (Option Volume)} {e : VolumeError}
      (h : found reply = .error e) : Shape policy (.attach id server) [⟨.getVolume id, reply⟩] (some (.error e))
  | serverUnread (id : VolumeId) (server : ServerId) (v : Volume) (e : ProviderError) :
      Shape policy (.attach id server) [⟨.getVolume id, .ok (some v)⟩, ⟨.serverExists server, .error e⟩]
        (some (.error (translate none e)))
  | noServer (id : VolumeId) (server : ServerId) (v : Volume) :
      Shape policy (.attach id server) [⟨.getVolume id, .ok (some v)⟩, ⟨.serverExists server, .ok false⟩]
        (some (.error .serverNotFound))
  | heldFromAttachment (id : VolumeId) (server : ServerId) {v : Volume} (h : v.attachedServer ≠ none) :
      Shape policy (.attach id server) [⟨.getVolume id, .ok (some v)⟩, ⟨.serverExists server, .ok true⟩]
        (some (.error .attached))
  | attached (id : VolumeId) (server : ServerId) {v : Volume} (h : v.attachedServer = none)
      {reply : Except ProviderError Action} {polls : List ProviderExchange} {r : Option (Except VolumeError Unit)}
      (settled : Settled policy reply polls r) :
      Shape policy (.attach id server)
        (⟨.getVolume id, .ok (some v)⟩ :: ⟨.serverExists server, .ok true⟩ :: ⟨.attachVolume id server, reply⟩ :: polls) r
  /-- The caller goes away before the first poll. -/
  | attachmentLeft (id : VolumeId) (server : ServerId) {v : Volume} (h : v.attachedServer = none) (a : Action) :
      Shape policy (.attach id server)
        [⟨.getVolume id, .ok (some v)⟩, ⟨.serverExists server, .ok true⟩, ⟨.attachVolume id server, .ok a⟩] none
  | notFoundToDetach (id : VolumeId) (server : Option ServerId) {reply : Except ProviderError (Option Volume)}
      {e : VolumeError} (h : found reply = .error e) :
      Shape policy (.detach id server) [⟨.getVolume id, reply⟩] (some (.error e))
  | notHeld (id : VolumeId) (server : Option ServerId) {v : Volume} (h : v.attachedServer = none) :
      Shape policy (.detach id server) [⟨.getVolume id, .ok (some v)⟩] (some (.error .notAttached))
  | heldElsewhere (id : VolumeId) {v : Volume} {holder named : ServerId} (h : v.attachedServer = some holder)
      (other : named ≠ holder) :
      Shape policy (.detach id (some named)) [⟨.getVolume id, .ok (some v)⟩] (some (.error .attached))
  | detached (id : VolumeId) (server : Option ServerId) {v : Volume} {holder : ServerId}
      (h : v.attachedServer = some holder) (same : server = none ∨ server = some holder)
      {reply : Except ProviderError Action} {polls : List ProviderExchange} {r : Option (Except VolumeError Unit)}
      (settled : Settled policy reply polls r) :
      Shape policy (.detach id server) (⟨.getVolume id, .ok (some v)⟩ :: ⟨.detachVolume id, reply⟩ :: polls) r
  | notFoundToGrow (id : VolumeId) (sizeGib : UInt64) {reply : Except ProviderError (Option Volume)} {e : VolumeError}
      (h : found reply = .error e) : Shape policy (.resize id sizeGib) [⟨.getVolume id, reply⟩] (some (.error e))
  | largeEnough (id : VolumeId) {sizeGib : UInt64} {v : Volume} (h : sizeGib ≤ v.sizeGib) :
      Shape policy (.resize id sizeGib) [⟨.getVolume id, .ok (some v)⟩] (some (.error .volumeSizeAlreadyReached))
  | grown (id : VolumeId) {sizeGib : UInt64} {v : Volume} (h : v.sizeGib < sizeGib)
      {reply : Except ProviderError Action} {polls : List ProviderExchange} {r : Option (Except VolumeError Unit)}
      (settled : Settled policy reply polls r) :
      Shape policy (.resize id sizeGib) (⟨.getVolume id, .ok (some v)⟩ :: ⟨.resizeVolume id sizeGib, reply⟩ :: polls) r

variable {policy : Policy} {xs : List ProviderExchange}

/-- What waiting for an action comes to, for a call on a volume. -/
theorem settled_of_await {a : Action} {r : Option (Except VolumeError Unit)}
    (h : Conducts policy ((await a).bind fun outcome => .done (onVolume outcome)) xs r) : Settled policy (.ok a) xs r := by
  obtain ⟨hleft, rfl⟩ | ⟨outcome, polls, rest, rfl, hwaited, rfl, rfl⟩ := h
  · exact .awaited hleft
  · rw [List.append_nil]
    exact .awaited hwaited

/-- A creation has a transcript of the shape. -/
theorem shape_create {o : CreateOptions} {r : Option (Except VolumeError Volume)} (h : Conducts policy (create o) xs r) :
    Shape policy (.create o) xs r := by
  obtain ⟨reply, rest, rfl, h⟩ := h
  rcases reply with e | ⟨v, a⟩
  · obtain ⟨rfl, rfl⟩ := h
    exact .notCreated o e
  · obtain ⟨hleft, rfl⟩ | ⟨outcome, polls, rest, rfl, hwaited, h⟩ := h
    · exact .creationLeft o v a hleft
    · rcases outcome with e | _
      · obtain ⟨reply, _, rfl, rfl, rfl⟩ := h
        exact .undone o v a hwaited reply
      · obtain ⟨rfl, rfl⟩ := h
        rw [List.append_nil]
        exact .created o v a hwaited

/-- A volume is looked at with one call. -/
theorem looked {α : Type} {id : VolumeId} {f : Except VolumeError Volume → Program tasks α} {r : Option α}
    (h : Conducts policy ((getById id).bind f) xs r) :
    ∃ reply rest, xs = ⟨.getVolume id, reply⟩ :: rest ∧ Conducts policy (f (found reply)) rest r := h

/-- What was found in a reply is the volume that it has. -/
theorem eq_of_found {reply : Except ProviderError (Option Volume)} {v : Volume} (h : found reply = .ok v) :
    reply = .ok (some v) := by
  rcases reply with e | _ | w
  · nomatch h
  · nomatch h
  · cases h
    rfl

/-- A deletion has a transcript of the shape. -/
theorem shape_delete {id : VolumeId} {r : Option (Except VolumeError Unit)} (h : Conducts policy (delete id) xs r) :
    Shape policy (.delete id) xs r := by
  obtain ⟨reply, rest, rfl, hrest⟩ := looked h
  cases hfound : found reply with
  | error e =>
    rw [hfound] at hrest
    obtain ⟨rfl, rfl⟩ := hrest
    exact .notFoundToDelete id hfound
  | ok v =>
    rw [hfound] at hrest
    obtain rfl := eq_of_found hfound
    cases hheld : v.attachedServer with
    | some holder =>
      simp only [hheld] at hrest
      obtain ⟨rfl, rfl⟩ := hrest
      exact .heldFromDeletion id (by simp [hheld])
    | none =>
      simp only [hheld] at hrest
      obtain ⟨reply, rest, rfl, rfl, rfl⟩ := hrest
      exact .deleted id hheld reply

/-- An attach has a transcript of the shape. -/
theorem shape_attach {id : VolumeId} {server : ServerId} {r : Option (Except VolumeError Unit)}
    (h : Conducts policy (attach policy id server) xs r) : Shape policy (.attach id server) xs r := by
  obtain ⟨reply, rest, rfl, hrest⟩ := looked h
  cases hfound : found reply with
  | error e =>
    rw [hfound] at hrest
    obtain ⟨rfl, rfl⟩ := hrest
    exact .notFoundToAttach id server hfound
  | ok v =>
    rw [hfound] at hrest
    obtain rfl := eq_of_found hfound
    obtain ⟨exists?, rest, rfl, hrest⟩ := hrest
    rcases exists? with e | _ | _
    · obtain ⟨rfl, rfl⟩ := hrest
      exact .serverUnread id server v e
    · obtain ⟨rfl, rfl⟩ := hrest
      exact .noServer id server v
    · cases hheld : v.attachedServer with
      | some holder =>
        simp only [hheld] at hrest
        obtain ⟨rfl, rfl⟩ := hrest
        exact .heldFromAttachment id server (by simp [hheld])
      | none =>
        simp only [hheld] at hrest
        obtain ⟨reply, rest, rfl, hrest⟩ := hrest
        rcases reply with e | a
        · obtain ⟨rfl, rfl⟩ := hrest
          exact .attached id server hheld (.refused e)
        · obtain ⟨rfl, rfl⟩ | hrest := hrest
          · exact .attachmentLeft id server hheld a
          · exact .attached id server hheld (settled_of_await hrest)

/-- A detach has a transcript of the shape. -/
theorem shape_detach {id : VolumeId} {server : Option ServerId} {r : Option (Except VolumeError Unit)}
    (h : Conducts policy (detach id server) xs r) : Shape policy (.detach id server) xs r := by
  obtain ⟨reply, rest, rfl, hrest⟩ := looked h
  cases hfound : found reply with
  | error e =>
    rw [hfound] at hrest
    obtain ⟨rfl, rfl⟩ := hrest
    exact .notFoundToDetach id server hfound
  | ok v =>
    rw [hfound] at hrest
    obtain rfl := eq_of_found hfound
    cases hheld : v.attachedServer with
    | none =>
      simp only [hheld] at hrest
      obtain ⟨rfl, rfl⟩ := hrest
      exact .notHeld id server hheld
    | some holder =>
      simp only [hheld] at hrest
      by_cases hother : server.isSome = true ∧ server ≠ some holder
      · rw [if_pos hother] at hrest
        obtain ⟨rfl, rfl⟩ := hrest
        obtain ⟨named, rfl⟩ := Option.isSome_iff_exists.1 hother.1
        exact .heldElsewhere id hheld (by simpa using hother.2)
      · rw [if_neg hother] at hrest
        have hsame : server = none ∨ server = some holder := by
          cases server with
          | none => exact Or.inl rfl
          | some named => simpa using hother
        obtain ⟨reply, rest, rfl, hrest⟩ := hrest
        rcases reply with e | a
        · obtain ⟨rfl, rfl⟩ := hrest
          exact .detached id server hheld hsame (.refused e)
        · exact .detached id server hheld hsame (settled_of_await hrest)

/-- An expansion has a transcript of the shape. -/
theorem shape_resize {id : VolumeId} {sizeGib : UInt64} {r : Option (Except VolumeError Unit)}
    (h : Conducts policy (resize id sizeGib) xs r) : Shape policy (.resize id sizeGib) xs r := by
  obtain ⟨reply, rest, rfl, hrest⟩ := looked h
  cases hfound : found reply with
  | error e =>
    rw [hfound] at hrest
    obtain ⟨rfl, rfl⟩ := hrest
    exact .notFoundToGrow id sizeGib hfound
  | ok v =>
    rw [hfound] at hrest
    obtain rfl := eq_of_found hfound
    dsimp only at hrest
    by_cases hlarge : sizeGib ≤ v.sizeGib
    · rw [if_pos hlarge] at hrest
      obtain ⟨rfl, rfl⟩ := hrest
      exact .largeEnough id hlarge
    · rw [if_neg hlarge] at hrest
      obtain ⟨reply, rest, rfl, hrest⟩ := hrest
      rcases reply with e | a
      · obtain ⟨rfl, rfl⟩ := hrest
        exact .grown id (UInt64.not_le.1 hlarge) (.refused e)
      · exact .grown id (UInt64.not_le.1 hlarge) (settled_of_await hrest)

/-- Every gateway call has its shape, whatever the client replies. -/
theorem shape_of_conducts {c : GatewayCall} {r : Option (Except VolumeError c.Answer)}
    (h : Conducts policy (layer policy c) xs r) : Shape policy c xs r := by
  cases c with
  | create o => exact shape_create h
  | getById id =>
    obtain ⟨reply, rest, rfl, rfl, rfl⟩ := h
    exact .readById id reply
  | getByName name =>
    obtain ⟨reply, rest, rfl, rfl, rfl⟩ := h
    exact .readByName name reply
  | delete id => exact shape_delete h
  | attach id server => exact shape_attach h
  | detach id server => exact shape_detach h
  | resize id sizeGib => exact shape_resize h
  | all =>
    obtain ⟨reply, rest, rfl, rfl, rfl⟩ := h
    exact .listed reply

/-- Every gateway call over every client has a transcript of its shape. -/
theorem Session.shape_run {σ : Type} (client : ProviderClient σ) (policy : Policy) (c : GatewayCall) (s : Session σ) :
    Shape policy c (transcript client policy (layer policy c) s) (run client policy (layer policy c) s).1 :=
  shape_of_conducts (conducts_run client policy (layer policy c) s).1

end VolumeDriver.Provider
