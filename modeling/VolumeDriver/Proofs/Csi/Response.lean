import Mathlib.Data.UInt
import VolumeDriver.Csi.ControllerService
import VolumeDriver.Proofs.Program

/-!
# How a call is answered

A call whose message is no request is answered at once; otherwise the service answers, and its answer is put into a message or
refused with a status (`run_respond`). A call is rejected when the status says that it is invalid, out of range or aborted. A
service's refusal can say so, and so does an answer whose size a message cannot hold.
-/

namespace VolumeDriver

open Program

namespace Csi

/-! ## Through the service -/

/-- What is answered when the service has answered. -/
def deliver {α β : Type} (reply : α → Except Status β) : Except Refusal α → Except Status β
  | .error e => .error e.status
  | .ok a => reply a

/-- A call is a call of the service, if its message is a request, and otherwise answered at once. -/
theorem through_respond {I J : Interface} {ρ α β : Type} (layer : (c : I.Call) → Program J (I.Reply c))
    (request : Except Status ρ) (service : ρ → Program I (Except Refusal α)) (reply : α → Except Status β) :
    (respond Refusal.status request service reply).through layer =
      match request with
      | .error e => done (.error e)
      | .ok r => ((service r).through layer).bind fun x => done (deliver reply x) := by
  cases request with
  | error e => rfl
  | ok r =>
    have hrespond : respond Refusal.status (.ok r) service reply = (service r).bind fun x => done (deliver reply x) := by
      show Program.bind _ _ = _
      congr 1
      funext x
      cases x <;> rfl
    rw [hrespond, through_bind]
    rfl

/-- A call is answered by the service, if its message is a request, and otherwise at once. -/
theorem run_respond {I J : Interface} {σ ρ α β : Type} (layer : (c : I.Call) → Program J (I.Reply c))
    (answer : (c : J.Call) → σ → J.Reply c × σ) (request : Except Status ρ) (service : ρ → Program I (Except Refusal α))
    (reply : α → Except Status β) (s : σ) :
    ((respond Refusal.status request service reply).through layer).run answer s =
      match request with
      | .error e => (.error e, s)
      | .ok r =>
        (deliver reply (((service r).through layer).run answer s).1, (((service r).through layer).run answer s).2) := by
  rw [through_respond]
  cases request with
  | error e => rfl
  | ok r => exact run_bind answer _ _ s

/-- A call whose message is a request is answered with what the service ends with. -/
theorem run_respond_of_ok {I J : Interface} {σ ρ α β : Type} {layer : (c : I.Call) → Program J (I.Reply c)}
    {answer : (c : J.Call) → σ → J.Reply c × σ} {request : Except Status ρ} {service : ρ → Program I (Except Refusal α)}
    {reply : α → Except Status β} {s t : σ} {r : ρ} {x : Except Refusal α} (hrequest : request = .ok r)
    (hrun : ((service r).through layer).run answer s = (x, t)) :
    ((respond Refusal.status request service reply).through layer).run answer s = (deliver reply x, t) := by
  rw [run_respond, hrequest]
  dsimp only
  rw [hrun]

/-- A layer below the service that answers. -/
theorem respond_through {I J : Interface} {ρ α β : Type} (layer : (c : I.Call) → Program J (I.Reply c)) (refused : Refusal → Status)
    (request : Except Status ρ) (service : ρ → Program I (Except Refusal α)) (reply : α → Except Status β) :
    (respond refused request service reply).through layer = respond refused request (fun r => (service r).through layer) reply := by
  cases request with
  | error e => rfl
  | ok r =>
    show (Program.bind (service r) _).through layer = Program.bind ((service r).through layer) _
    rw [through_bind]
    refine congrArg _ (funext fun x => ?_)
    cases x <;> rfl

/-- A call makes no other calls than its service does for the request. -/
theorem only_respond {ρ α β : Type} {I : Interface} {Q : I.Call → Prop} {refused : Refusal → Status} {request : Except Status ρ}
    {service : ρ → Program I (Except Refusal α)} {reply : α → Except Status β}
    (h : ∀ r, request = .ok r → (service r).Only Q) : (respond refused request service reply).Only Q := by
  cases request with
  | error e => trivial
  | ok r =>
    refine (h r rfl).bind fun x => ?_
    cases x <;> trivial

/-! ## Rejected calls -/

/-- The codes of a call that is turned down for what it asks. -/
def Code.rejects : Code → Bool
  | .invalidArgument | .outOfRange | .aborted => true
  | _ => false

/-- The call is turned down for what it asks. -/
def Rejected {α : Type} (answer : Except Status α) : Prop := ∃ e : Status, answer = .error e ∧ e.code.rejects = true

/-- A success is not turned down. -/
theorem not_rejected_ok {α : Type} (a : α) : ¬ Rejected (.ok a) := by
  rintro ⟨e, he, _⟩
  nomatch he

/-- A failure is a rejection exactly if its code says so. -/
theorem rejected_error_iff {α : Type} {e : Status} : Rejected (.error e : Except Status α) ↔ e.code.rejects = true := by
  constructor
  · rintro ⟨_, ⟨⟩, he⟩
    exact he
  · exact fun he => ⟨e, rfl, he⟩

/-- What is made of a message does not change whether the call is rejected. -/
theorem rejected_map_iff {α β : Type} {x : Except Status α} {f : α → β} : Rejected (f <$> x) ↔ Rejected x := by
  cases x with
  | error e => exact rejected_error_iff.trans rejected_error_iff.symm
  | ok a => exact iff_of_false (not_rejected_ok _) (not_rejected_ok _)

/-- A value that becomes part of another is turned down exactly if it is turned down itself. -/
theorem rejected_bind_ok_iff {α β : Type} {x : Except Status α} {f : α → β} :
    Rejected (x >>= fun a => .ok (f a)) ↔ Rejected x := by
  cases x with
  | error e => exact rejected_error_iff.trans rejected_error_iff.symm
  | ok a => exact iff_of_false (not_rejected_ok _) (not_rejected_ok _)

/-- A message holds a size that is below the sign of a word as it is. -/
theorem wireBytes_of_lt {n : UInt64} (h : n.toNat < 2 ^ 63) (problem : String) :
    ∃ bytes, wireBytes n problem = .ok bytes ∧ bytes.toInt = n.toNat := by
  have hlargest : (0x7FFFFFFFFFFFFFFF : UInt64).toNat = 2 ^ 63 - 1 := rfl
  have hfits : ¬ 0x7FFFFFFFFFFFFFFF < n := by
    rw [UInt64.lt_iff_toNat_lt]
    omega
  have hsign : 2 * n.toBitVec.toNat < 2 ^ 64 := by
    rw [UInt64.toNat_toBitVec]
    omega
  exact ⟨n.toInt64, by rw [wireBytes, if_neg hfits], BitVec.toInt_eq_toNat_of_lt hsign⟩

/-- A larger size it does not hold. -/
theorem wireBytes_of_le {n : UInt64} (h : 2 ^ 63 ≤ n.toNat) (problem : String) :
    wireBytes n problem = .error (.outOfRange problem) := by
  have hlargest : (0x7FFFFFFFFFFFFFFF : UInt64).toNat = 2 ^ 63 - 1 := rfl
  have hlarge : 0x7FFFFFFFFFFFFFFF < n := by
    rw [UInt64.lt_iff_toNat_lt]
    omega
  rw [wireBytes, if_pos hlarge]

/-- A size that a message cannot hold is out of range. -/
theorem rejected_wireBytes_iff {n : UInt64} {problem : String} : Rejected (wireBytes n problem) ↔ 2 ^ 63 ≤ n.toNat := by
  by_cases hn : 2 ^ 63 ≤ n.toNat
  · rw [wireBytes_of_le hn]
    exact iff_of_true (rejected_error_iff.2 rfl) hn
  · obtain ⟨bytes, hbytes, _⟩ := wireBytes_of_lt (Nat.lt_of_not_le hn) problem
    rw [hbytes]
    exact iff_of_false (not_rejected_ok _) hn

/-- A created volume is turned down exactly if a message cannot hold its bytes. -/
theorem rejected_volume_iff {v : VolumeInfo} :
    Rejected (ControllerReply.created <$> v.toMessage) ↔ 2 ^ 63 ≤ v.capacityBytes.toNat := by
  rw [rejected_map_iff, VolumeInfo.toMessage, rejected_bind_ok_iff, rejected_wireBytes_iff]

/-- An expansion is turned down exactly if a message cannot hold its bytes. -/
theorem rejected_expansion_iff {e : Expansion} :
    Rejected (ControllerReply.expanded <$> e.toMessage) ↔ 2 ^ 63 ≤ e.capacityBytes.toNat := by
  rw [rejected_map_iff, Expansion.toMessage, rejected_bind_ok_iff, rejected_wireBytes_iff]

/-! ## Refusals -/

/-- The answer of a service is no refusal for what is asked. -/
def Unrejecting {α : Type} (answer : Except Refusal α) : Prop :=
  ∀ e : Refusal, answer = .error e → e.status.code.rejects = false

/-- A success is no refusal for what is asked. -/
theorem unrejecting_ok {α : Type} (a : α) : Unrejecting (.ok a) := nofun

/-- A failure with another code is no refusal for what is asked. -/
theorem unrejecting_error {α : Type} {e : Refusal} (h : e.status.code.rejects = false) :
    Unrejecting (.error e : Except Refusal α) := by
  rintro _ ⟨⟩
  exact h

end Csi

end VolumeDriver
