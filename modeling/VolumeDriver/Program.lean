/-!
# Programs that make calls

A program either is done or makes one call of an interface and goes on with the reply. Its calls can be answered by a state
(`run`), one call at a time (`step`), or by further programs over another interface (`through`). A program that is run by
itself and one that is run interleaved with others are thus the same value, and the unit of interleaving is one call.
-/

namespace VolumeDriver

/-- What can be asked, and what each question is answered with. -/
structure Interface where
  Call : Type
  Reply : Call → Type

/-- A computation that makes calls of an interface. -/
inductive Program (I : Interface) (α : Type) where
  | done (a : α)
  | call (c : I.Call) (next : I.Reply c → Program I α)

namespace Program

variable {I J : Interface} {α β σ : Type}

/-- Goes on with a second program when the first is done. -/
def bind : Program I α → (α → Program I β) → Program I β
  | done a, f => f a
  | call c next, f => call c fun r => (next r).bind f

instance : Monad (Program I) where
  pure := done
  bind := bind

/-- The program that makes one call and is done with its reply. -/
def ask (c : I.Call) : Program I (I.Reply c) := call c done

/-- Answers every call from a state. -/
def run (answer : (c : I.Call) → σ → I.Reply c × σ) : Program I α → σ → α × σ
  | done a, s => (a, s)
  | call c next, s =>
    let (r, s') := answer c s
    (next r).run answer s'

/-- Answers the next call from a state. -/
def step (answer : (c : I.Call) → σ → I.Reply c × σ) : Program I α → σ → Program I α × σ
  | done a, s => (done a, s)
  | call c next, s =>
    let (r, s') := answer c s
    (next r, s')

/-- The result of a program that is done. -/
def result? : Program I α → Option α
  | done a => some a
  | call _ _ => none

/-- Replaces every call by a program over another interface. -/
def through (layer : (c : I.Call) → Program J (I.Reply c)) : Program I α → Program J α
  | done a => done a
  | call c next => (layer c).bind fun r => (next r).through layer

/-- A program that is done answers at once. -/
@[simp]
theorem run_done (answer : (c : I.Call) → σ → I.Reply c × σ) (a : α) (s : σ) : (done a : Program I α).run answer s = (a, s) :=
  rfl

/-- A program makes its first call and goes on with the reply. -/
@[simp]
theorem run_call (answer : (c : I.Call) → σ → I.Reply c × σ) (c : I.Call) (next : I.Reply c → Program I α) (s : σ) :
    (call c next).run answer s = (next (answer c s).1).run answer (answer c s).2 :=
  rfl

/-- A program is run, and then what is made of its answer. -/
theorem run_bind (answer : (c : I.Call) → σ → I.Reply c × σ) (p : Program I α) (f : α → Program I β) (s : σ) :
    (p.bind f).run answer s = (f (p.run answer s).1).run answer (p.run answer s).2 := by
  induction p generalizing s with
  | done a => rfl
  | call c next ih => exact ih _ _

/-- A layered program runs as the program itself does when each call is answered by running its layer. -/
theorem run_through (layer : (c : I.Call) → Program J (I.Reply c)) (answer : (c : J.Call) → σ → J.Reply c × σ)
    (p : Program I α) (s : σ) :
    (p.through layer).run answer s = p.run (fun c s => (layer c).run answer s) s := by
  induction p generalizing s with
  | done a => rfl
  | call c next ih => simp only [through, run_bind, ih, run_call]

/-! ### Programs that may fail -/

variable {ε : Type}

/-- A failure ends a program, and what follows is not run. -/
theorem run_except_bind (answer : (c : I.Call) → σ → I.Reply c × σ) (t : ExceptT ε (Program I) α)
    (f : α → ExceptT ε (Program I) β) (s : σ) :
    Program.run answer (t >>= f).run s =
      match Program.run answer t.run s with
      | (.ok a, s') => Program.run answer (f a).run s'
      | (.error e, s') => (.error e, s') := by
  show Program.run answer (Program.bind t.run (ExceptT.bindCont f)) s = _
  rw [run_bind]
  rcases Program.run answer t.run s with ⟨_ | a, s'⟩ <;> rfl

/-- A task that is done succeeds at once. -/
@[simp]
theorem run_except_pure (answer : (c : I.Call) → σ → I.Reply c × σ) (a : α) (s : σ) :
    Program.run answer (pure a : ExceptT ε (Program I) α).run s = (.ok a, s) :=
  rfl

/-- A task that fails does so at once. -/
@[simp]
theorem run_except_throw (answer : (c : I.Call) → σ → I.Reply c × σ) (e : ε) (s : σ) :
    Program.run answer (throw e : ExceptT ε (Program I) α).run s = (.error e, s) :=
  rfl

end Program

end VolumeDriver
