import VolumeDriver.Proofs.Gateway.Absorption

/-!
# What a gateway shows of a program

A gateway shows that it was called by the log of its calls, and what the calls did by its volumes and their labels. A program
that only looks leaves it untouched; one that begins with a call that may change something does not, whether the call fails or
not. So it is through the idempotent layer.
-/

namespace VolumeDriver

open Program

/-- Whether calls of the operation may change a volume. -/
def GatewayOp.changes : GatewayOp → Bool
  | .create | .delete | .attach | .detach | .resize => true
  | .getById | .getByName | .all => false

/-- A call that only looks is of an operation that changes nothing. -/
theorem GatewayCall.Looks.not_changes {c : GatewayCall} (h : c.Looks) : c.op.changes = false := by
  cases c with
  | getById id => rfl
  | getByName name => rfl
  | all => rfl
  | _ => exact h.elim

/-- A call that only looks is not of an operation that changes something. -/
theorem GatewayCall.Looks.op_ne {c : GatewayCall} (h : c.Looks) {op : GatewayOp} (hop : op.changes = true) : c.op ≠ op := by
  rintro rfl
  rw [h.not_changes] at hop
  cases hop

namespace FaultyStore

/-- From one gateway to the next no call was made that may change a volume, and volumes and labels are the same. -/
structure Untouched (s t : FaultyStore) : Prop where
  volumes_eq : t.store.volumes = s.store.volumes
  labels_eq : t.store.labels = s.store.labels
  callsOf_eq : ∀ op : GatewayOp, op.changes = true → t.callsOf op = s.callsOf op

/-- A gateway is untouched by nothing. -/
theorem Untouched.refl (s : FaultyStore) : Untouched s s := ⟨rfl, rfl, fun _ _ => rfl⟩

/-- Every call is logged, a failed one too. -/
theorem calls_answer (c : GatewayCall) (s : FaultyStore) : (answer c s).2.calls = s.calls ++ [c.op] := by
  unfold answer
  dsimp only
  split <;> rfl

/-- A call adds one to the calls of its operation. -/
theorem callsOf_answer (c : GatewayCall) (s : FaultyStore) (op : GatewayOp) :
    (answer c s).2.callsOf op = s.callsOf op + if c.op = op then 1 else 0 := by
  rw [callsOf, calls_answer, List.count_append, List.count_singleton, callsOf]
  simp only [beq_iff_eq]

/-- A call that only looks leaves the gateway untouched. -/
theorem Untouched.answer_of_looks {s t : FaultyStore} (h : Untouched s t) {c : GatewayCall} (hc : c.Looks) :
    Untouched s (answer c t).2 := by
  have hstore := store_answer_of_looks hc t
  refine ⟨by rw [hstore, h.volumes_eq], by rw [hstore, h.labels_eq], fun op hop => ?_⟩
  rw [callsOf_answer, if_neg (hc.op_ne hop), h.callsOf_eq op hop, Nat.add_zero]

/-- A program that only looks leaves the gateway untouched. -/
theorem untouched_of_looks {α : Type} {p : Program gateway α} (h : p.Only GatewayCall.Looks) (s : FaultyStore) :
    Untouched s (p.run answer s).2 :=
  run_preserves (P := Untouched s) (fun _ _ hc ht => ht.answer_of_looks hc) h (.refl s)

/-- No call is taken out of the log. -/
theorem callsOf_le_run {α : Type} (p : Program gateway α) (op : GatewayOp) (s : FaultyStore) :
    s.callsOf op ≤ (p.run answer s).2.callsOf op := by
  refine run_preserves (P := fun t : FaultyStore => s.callsOf op ≤ t.callsOf op) (fun c t _ ht => ?_) (only_true p)
    (Nat.le_refl _)
  rw [callsOf_answer]
  omega

/-- A program that begins with a call that may change something touches the gateway. -/
theorem touched_of_ask {α : Type} {c : GatewayCall} (hc : c.op.changes = true)
    (f : Except VolumeError c.Answer → Program gateway α) (s : FaultyStore) :
    ¬ Untouched s (((askGateway c).bind f).run answer s).2 := by
  intro h
  have hlogged : (answer c s).2.callsOf c.op = s.callsOf c.op + 1 := by rw [callsOf_answer, if_pos rfl]
  have hkept : (answer c s).2.callsOf c.op ≤ (((askGateway c).bind f).run answer s).2.callsOf c.op :=
    callsOf_le_run (f (answer c s).1) c.op (answer c s).2
  rw [h.callsOf_eq c.op hc] at hkept
  omega

end FaultyStore

namespace Idempotent

/-- What the layer makes of a call that may change something begins with such a call. -/
theorem layer_begins {c : GatewayCall} (h : c.op.changes = true) :
    ∃ (d : GatewayCall) (f : Except VolumeError d.Answer → Program gateway (Except VolumeError c.Answer)),
      d.op.changes = true ∧ layer c = (askGateway d).bind f := by
  cases c with
  | create o => exact ⟨.create o, _, rfl, rfl⟩
  | getById id => nomatch h
  | getByName name => nomatch h
  | delete id => exact ⟨.detach id none, _, rfl, rfl⟩
  | attach id server => exact ⟨.attach id server, _, rfl, rfl⟩
  | detach id server => exact ⟨.detach id server, _, rfl, rfl⟩
  | resize id sizeGib => exact ⟨.resize id sizeGib, done, rfl, rfl⟩
  | all => nomatch h

/-- The same below the idempotent layer. -/
theorem touched_of_ask {α : Type} {c : GatewayCall} (hc : c.op.changes = true)
    (f : Except VolumeError c.Answer → Program gateway α) (s : FaultyStore) :
    ¬ s.Untouched ((((askGateway c).bind f).through layer).run FaultyStore.answer s).2 := by
  obtain ⟨d, g, hd, hlayer⟩ := layer_begins hc
  rw [through_ask_bind, hlayer]
  exact FaultyStore.touched_of_ask hd (fun r => (g r).bind fun r => (f r).through layer) s

end Idempotent

end VolumeDriver
