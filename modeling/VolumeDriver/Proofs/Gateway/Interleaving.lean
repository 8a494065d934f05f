import VolumeDriver.Proofs.Gateway.Store
import VolumeDriver.Proofs.Program

/-!
# Programs that share a gateway

Programs run at once over one gateway, one call at a time. A turn lets one of them make its next call, or makes a call to come
fail; the turns come in any order (`Pool.run`).

What holds after any turns is shown by terms on which the programs share the gateway (`Terms`): the calls that each of them may
make, what holds of the gateway, and what such calls keep of it. A program is then followed by itself. Before each of its calls the
others may have changed the gateway, but only as the terms allow (`Terms.Ensures`). What the programs so ensure, each by itself,
holds of all of them together (`Terms.ensured_run`).
-/

namespace VolumeDriver

open Program

variable {α β : Type}

/-! ## Pools -/

/-- A program under way: what is left of it, and the exchanges that it has had. -/
structure Thread (α : Type) where
  rest : Program gateway α
  exchanges : List (Exchange gateway) := []

/-- The next call of a thread, if there is one. -/
def Thread.step (t : Thread α) (s : FaultyStore) : Thread α × FaultyStore :=
  (⟨(t.rest.step FaultyStore.answer s).1, t.exchanges ++ (t.rest.exchanges FaultyStore.answer s).take 1⟩,
    (t.rest.step FaultyStore.answer s).2)

/-- Threads over one gateway. -/
structure Pool (α : Type) where
  threads : List (Thread α)
  shared : FaultyStore

/-- What happens next: a thread makes a call, or a call is made to fail. -/
inductive Turn where
  | next (thread : Nat)
  | fail (op : GatewayOp) (e : VolumeError)

namespace Pool

/-- Programs that have not begun. -/
def start (programs : List (Program gateway α)) (s : FaultyStore) : Pool α := ⟨programs.map fun p => ⟨p, []⟩, s⟩

def turn : Turn → Pool α → Pool α
  | .next i, pool =>
    match pool.threads[i]? with
    | none => pool
    | some t => ⟨pool.threads.set i (t.step pool.shared).1, (t.step pool.shared).2⟩
  | .fail op e, pool => { pool with shared := pool.shared.failNext op e }

/-- There is no turn for a thread that does not exist. -/
theorem turn_next_of_none {pool : Pool α} {i : Nat} (h : pool.threads[i]? = none) : pool.turn (.next i) = pool := by
  rw [turn, h]

/-- In its turn a thread makes its next call. -/
theorem turn_next_of_some {pool : Pool α} {i : Nat} {t : Thread α} (h : pool.threads[i]? = some t) :
    pool.turn (.next i) = ⟨pool.threads.set i (t.step pool.shared).1, (t.step pool.shared).2⟩ := by
  rw [turn, h]

def run (turns : List Turn) (pool : Pool α) : Pool α := turns.foldl (fun pool t => pool.turn t) pool

/-- The result of a thread that is done. -/
def result? (pool : Pool α) (i : Nat) : Option α := pool.threads[i]?.bind fun t => t.rest.result?

/-- The exchanges that a thread has had. -/
def exchanges (pool : Pool α) (i : Nat) : List (Exchange gateway) := (pool.threads[i]?.map (·.exchanges)).getD []

/-- In no turn the counter of identifiers goes back to smaller ones. -/
def NeverWraps : List Turn → Pool α → Prop
  | [], _ => True
  | t :: ts, pool => pool.shared.store.nextId ≤ (pool.turn t).shared.store.nextId ∧ NeverWraps ts (pool.turn t)

/-- A thread that is done stays so. -/
theorem result?_turn {pool : Pool α} {i : Nat} {a : α} (h : pool.result? i = some a) (turn : Turn) :
    (pool.turn turn).result? i = some a := by
  cases turn with
  | fail op e => exact h
  | next j =>
    cases hj : pool.threads[j]? with
    | none => rwa [turn_next_of_none hj]
    | some t =>
      rw [turn_next_of_some hj, result?, List.getElem?_set]
      rw [result?] at h
      split
      case isFalse => exact h
      case isTrue hij =>
        -- the thread has no call left to make
        subst hij
        rw [hj] at h
        rw [if_pos (List.getElem?_eq_some_iff.1 hj).1]
        obtain ⟨rest, xs⟩ := t
        cases rest with
        | done b => exact h
        | call c next => cases h

/-- A thread that is done keeps its result. -/
theorem result?_run {pool : Pool α} {i : Nat} {a : α} (h : pool.result? i = some a) (turns : List Turn) :
    (pool.run turns).result? i = some a := by
  induction turns generalizing pool with
  | nil => exact h
  | cons turn turns ih => exact ih (result?_turn h turn)

/-- Turns are taken one after the other. -/
theorem run_append (first rest : List Turn) (pool : Pool α) : pool.run (first ++ rest) = (pool.run first).run rest :=
  List.foldl_append

/-- If the counter never goes back, it did not on the way. -/
theorem NeverWraps.of_append {first rest : List Turn} {pool : Pool α} (h : pool.NeverWraps (first ++ rest)) :
    pool.NeverWraps first := by
  induction first generalizing pool with
  | nil => trivial
  | cons turn first ih => exact ⟨h.1, ih h.2⟩

/-- A turn gives out one identifier at most. -/
theorem nextId_turn (turn : Turn) (pool : Pool α) :
    (pool.turn turn).shared.store.nextId = pool.shared.store.nextId ∨
      (pool.turn turn).shared.store.nextId = pool.shared.store.nextId + 1 := by
  cases turn with
  | fail op e => exact Or.inl rfl
  | next i =>
    cases hi : pool.threads[i]? with
    | none => exact Or.inl (by rw [turn_next_of_none hi])
    | some t =>
      rw [turn_next_of_some hi]
      obtain ⟨rest, xs⟩ := t
      cases rest with
      | done a => exact Or.inl rfl
      | call c next =>
        show (FaultyStore.answer c pool.shared).2.store.nextId = _ ∨ (FaultyStore.answer c pool.shared).2.store.nextId = _
        rcases FaultyStore.answer_cases c pool.shared with ⟨_, hstore⟩ | ⟨_, hstore⟩ <;> rw [hstore]
        · exact Or.inl rfl
        · exact (Store.step_answer c pool.shared.store).nextId_eq

/-- As many turns as there are identifiers left do not use them up. -/
theorem neverWraps_of_lt {turns : List Turn} {pool : Pool α}
    (h : pool.shared.store.nextId.toNat + turns.length < UInt64.size) : pool.NeverWraps turns := by
  induction turns generalizing pool with
  | nil => trivial
  | cons turn turns ih =>
    rw [List.length_cons] at h
    have hword := Store.toNat_nextId_succ (s := pool.shared.store) (by omega)
    rcases nextId_turn turn pool with heq | heq
    · exact ⟨UInt64.le_of_eq heq.symm, ih (by rw [heq]; omega)⟩
    · refine ⟨?_, ih (by rw [heq, hword]; omega)⟩
      rw [heq, UInt64.le_iff_toNat_le, hword]
      exact Nat.le_succ _

/-- What every call keeps that a thread can make, any turns keep. -/
theorem run_keeps {Q : GatewayCall → Prop} {P : FaultyStore → Prop} (hcall : ∀ c s, Q c → P s → P (FaultyStore.answer c s).2)
    (hfail : ∀ op e s, P s → P (s.failNext op e)) {pool : Pool α} (honly : ∀ t ∈ pool.threads, t.rest.Only Q)
    (h : P pool.shared) (turns : List Turn) : P (pool.run turns).shared := by
  induction turns generalizing pool with
  | nil => exact h
  | cons turn turns ih =>
    have hrun : pool.run (turn :: turns) = (pool.turn turn).run turns := rfl
    rw [hrun]
    cases turn with
    | fail op e => exact ih honly (hfail op e _ h)
    | next i =>
      cases hi : pool.threads[i]? with
      | none =>
        rw [turn_next_of_none hi]
        exact ih honly h
      | some t =>
        have ht := honly t (List.mem_of_getElem? hi)
        have hstep : (t.step pool.shared).1.rest.Only Q ∧ P (t.step pool.shared).2 := by
          obtain ⟨rest, xs⟩ := t
          cases rest with
          | done a => exact ⟨trivial, h⟩
          | call c next => exact ⟨ht.2 _, hcall c pool.shared ht.1 h⟩
        rw [turn_next_of_some hi]
        refine ih (fun u hu => ?_) hstep.2
        -- the thread whose turn it was has gone on; the others are where they were
        rcases List.mem_or_eq_of_mem_set hu with hold | rfl
        · exact honly u hold
        · exact hstep.1

end Pool

/-! ## Terms -/

/-- Terms on which programs share a gateway. -/
structure Terms where
  /-- The calls that the programs may make. -/
  Allows : GatewayCall → Prop
  /-- What holds of the gateway. -/
  Holds : FaultyStore → Prop
  /-- What is kept from a gateway to a later one. -/
  Keeps : FaultyStore → FaultyStore → Prop
  /-- Whether calls can be made to fail. -/
  mayFail : Prop
  refl : ∀ s, Keeps s s
  trans : ∀ {s t u}, Keeps s t → Keeps t u → Keeps s u
  keeps_answer : ∀ {c s}, Allows c → Holds s → s.store.nextId ≤ (FaultyStore.answer c s).2.store.nextId →
    Keeps s (FaultyStore.answer c s).2 ∧ Holds (FaultyStore.answer c s).2
  keeps_failNext : mayFail → ∀ op e {s}, Holds s → Keeps s (s.failNext op e) ∧ Holds (s.failNext op e)

namespace Terms

variable {T : Terms} {s t : FaultyStore} {xs : List (Exchange gateway)}

/-- The second gateway is one that the first can become. -/
def Later (T : Terms) (s t : FaultyStore) : Prop := T.Keeps s t ∧ T.Holds t

/-- Whatever the others do between its calls, the program ends, if it ends, with a result and exchanges of which `post` holds,
then and later. -/
def Ensures (T : Terms) (post : α → List (Exchange gateway) → FaultyStore → Prop) :
    Program gateway α → List (Exchange gateway) → FaultyStore → Prop
  | done a, xs, s => ∀ t, T.Later s t → post a xs t
  | call c next, xs, s => ∀ t, T.Later s t → T.Later t (FaultyStore.answer c t).2 →
    T.Ensures post (next (FaultyStore.answer c t).1) (xs ++ [⟨c, (FaultyStore.answer c t).1⟩]) (FaultyStore.answer c t).2

section Ensures

variable {post : α → List (Exchange gateway) → FaultyStore → Prop} {post' : β → List (Exchange gateway) → FaultyStore → Prop}

/-- What a program ensures of a gateway it ensures of those that it becomes. -/
theorem Ensures.later {p : Program gateway α} (h : T.Ensures post p xs s) (hst : T.Keeps s t) : T.Ensures post p xs t := by
  cases p with
  | done a => exact fun u hu => h u ⟨T.trans hst hu.1, hu.2⟩
  | call c next => exact fun u hu => h u ⟨T.trans hst hu.1, hu.2⟩

/-- A program ensures what follows from what it ensures. -/
theorem Ensures.mono {p : Program gateway α} (h : T.Ensures post p xs s) {post' : α → List (Exchange gateway) → FaultyStore → Prop}
    (hpost : ∀ a ys t, post a ys t → post' a ys t) : T.Ensures post' p xs s := by
  induction p generalizing xs s with
  | done a => exact fun t ht => hpost a xs t (h t ht)
  | call c next ih => exact fun t ht hanswer => ih _ (h t ht hanswer)

/-- What a program ensures later on, what follows it may rely on. -/
theorem Ensures.bind {p : Program gateway α} {f : α → Program gateway β} (h : T.Ensures post p xs s)
    (hf : ∀ a ys t, (∀ u, T.Later t u → post a ys u) → T.Ensures post' (f a) ys t) : T.Ensures post' (p.bind f) xs s := by
  induction p generalizing xs s with
  | done a => exact hf a xs s h
  | call c next ih => exact fun t ht hanswer => ih _ (h t ht hanswer)

/-- What always holds is ensured. -/
theorem ensures_of_forall (h : ∀ a xs s, post a xs s) (p : Program gateway α) : T.Ensures post p xs s := by
  induction p generalizing xs s with
  | done a => exact fun t _ => h a xs t
  | call c next ih => exact fun t _ _ => ih _

/-- A step of a thread keeps the terms, and what the thread ensures. -/
theorem ensures_step {t : Thread α} (honly : t.rest.Only T.Allows) (h : T.Ensures post t.rest t.exchanges s) (hs : T.Holds s)
    (hnext : s.store.nextId ≤ (t.step s).2.store.nextId) :
    (t.step s).1.rest.Only T.Allows ∧ T.Ensures post (t.step s).1.rest (t.step s).1.exchanges (t.step s).2 ∧
      T.Later s (t.step s).2 := by
  obtain ⟨rest, xs⟩ := t
  cases rest with
  | done a =>
    have hxs : xs ++ ((done a : Program gateway α).exchanges FaultyStore.answer s).take 1 = xs := List.append_nil xs
    refine ⟨trivial, ?_, T.refl s, hs⟩
    rw [Thread.step, hxs]
    exact h
  | call c next =>
    have hlater : T.Later s (FaultyStore.answer c s).2 := T.keeps_answer honly.1 hs hnext
    exact ⟨honly.2 _, h s ⟨T.refl s, hs⟩ hlater, hlater⟩

end Ensures

/-! ## Runs -/

/-- The terms hold, and each thread makes calls that they allow and ensures what is wanted of it. -/
structure Ensured (T : Terms) (posts : Nat → α → List (Exchange gateway) → FaultyStore → Prop) (pool : Pool α) : Prop where
  holds : T.Holds pool.shared
  thread : ∀ i t, pool.threads[i]? = some t → t.rest.Only T.Allows ∧ T.Ensures (posts i) t.rest t.exchanges pool.shared

variable {posts : Nat → α → List (Exchange gateway) → FaultyStore → Prop} {pool : Pool α}

/-- A turn on the terms leaves all threads as they should be. -/
theorem Ensured.turn (h : T.Ensured posts pool) {turn : Turn} (hnext : pool.shared.store.nextId ≤ (pool.turn turn).shared.store.nextId)
    (hfail : ∀ op e, turn = .fail op e → T.mayFail) : T.Ensured posts (pool.turn turn) := by
  cases turn with
  | next i =>
    cases hi : pool.threads[i]? with
    | none =>
      rw [Pool.turn_next_of_none hi]
      exact h
    | some t =>
      rw [Pool.turn_next_of_some hi] at hnext ⊢
      obtain ⟨honly, hensures⟩ := h.thread i t hi
      obtain ⟨honly', hensures', hlater⟩ := ensures_step honly hensures h.holds hnext
      refine ⟨hlater.2, fun j u hj => ?_⟩
      -- the thread whose turn it was has gone on; the others are where they were, over a later gateway
      rw [List.getElem?_set] at hj
      split at hj
      case isTrue hij =>
        subst hij
        split at hj
        · cases hj
          exact ⟨honly', hensures'⟩
        · cases hj
      case isFalse =>
        obtain ⟨honly, hensures⟩ := h.thread j u hj
        exact ⟨honly, hensures.later hlater.1⟩
  | fail op e =>
    obtain ⟨hkeeps, hholds⟩ := T.keeps_failNext (hfail op e rfl) op e h.holds
    refine ⟨hholds, fun j u hj => ?_⟩
    obtain ⟨honly, hensures⟩ := h.thread j u hj
    exact ⟨honly, hensures.later hkeeps⟩

/-- Turns on the terms leave all threads as they should be. -/
theorem Ensured.run (h : T.Ensured posts pool) {turns : List Turn} (hwraps : pool.NeverWraps turns)
    (hfail : ∀ op e, Turn.fail op e ∈ turns → T.mayFail) : T.Ensured posts (pool.run turns) := by
  induction turns generalizing pool with
  | nil => exact h
  | cons turn turns ih =>
    refine ih (h.turn hwraps.1 fun op e he => hfail op e ?_) hwraps.2 fun op e he => hfail op e (List.mem_cons_of_mem _ he)
    rw [he]
    exact List.mem_cons_self

/-- A thread that is done has ended with a result as it ensures. -/
theorem Ensured.result (h : T.Ensured posts pool) {i : Nat} {a : α} (ha : pool.result? i = some a) :
    posts i a (pool.exchanges i) pool.shared := by
  unfold Pool.result? at ha
  unfold Pool.exchanges
  cases hi : pool.threads[i]? with
  | none =>
    rw [hi] at ha
    cases ha
  | some t =>
    obtain ⟨rest, xs⟩ := t
    rw [hi] at ha
    have hensures := (h.thread i _ hi).2
    cases rest with
    | done b =>
      cases ha
      exact hensures _ ⟨T.refl _, h.holds⟩
    | call c next => cases ha

/-- What each program ensures by itself holds of the programs run together, after any turns. -/
theorem ensured_run {κ : Type} {program : κ → Program gateway α} (post : κ → α → List (Exchange gateway) → FaultyStore → Prop)
    {keys : List κ} (honly : ∀ k ∈ keys, (program k).Only T.Allows)
    (hensures : ∀ k ∈ keys, T.Ensures (post k) (program k) [] s) (hs : T.Holds s) {turns : List Turn}
    (hwraps : (Pool.start (keys.map program) s).NeverWraps turns) (hfail : ∀ op e, Turn.fail op e ∈ turns → T.mayFail) :
    T.Ensured (fun i a xs t => ∀ k, keys[i]? = some k → post k a xs t) ((Pool.start (keys.map program) s).run turns) := by
  refine Ensured.run ⟨hs, fun i t hi => ?_⟩ hwraps hfail
  rw [Pool.start, List.map_map, List.getElem?_map] at hi
  obtain ⟨k, hk, rfl⟩ := Option.map_eq_some_iff.1 hi
  refine ⟨honly k (List.mem_of_getElem? hk), ?_⟩
  refine (hensures k (List.mem_of_getElem? hk)).mono fun a xs t hpost k' hk' => ?_
  rw [hk] at hk'
  cases hk'
  exact hpost

end Terms

end VolumeDriver
