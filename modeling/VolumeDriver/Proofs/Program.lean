import VolumeDriver.Program

/-!
# What a program asks

`Program.Only Q` says that every call that a program can make satisfies `Q`, whatever it is replied to; so what such calls
keep, a whole run keeps (`run_preserves`). `Program.Yields R P` says that replies of which `R` holds lead to an answer of which
`P` holds. `Program.exchanges` are the calls of one run over a state, with their replies. `Program.Alike R` relates programs that make the same
calls and end with answers that `R` relates.
-/

namespace VolumeDriver.Program

variable {I J : Interface} {α β σ ε : Type}

@[simp]
theorem bind_eq (p : Program I α) (f : α → Program I β) : p >>= f = p.bind f := rfl

@[simp]
theorem pure_eq (a : α) : (pure a : Program I α) = done a := rfl

@[simp]
theorem done_bind (a : α) (f : α → Program I β) : (done a).bind f = f a := rfl

@[simp]
theorem call_bind (c : I.Call) (next : I.Reply c → Program I α) (f : α → Program I β) :
    (call c next).bind f = call c fun r => (next r).bind f := rfl

/-- Programs in a row can be put in parentheses either way. -/
theorem bind_bind {γ : Type} (p : Program I α) (f : α → Program I β) (g : β → Program I γ) :
    (p.bind f).bind g = p.bind fun a => (f a).bind g := by
  induction p with
  | done a => rfl
  | call c next ih =>
    simp only [call_bind, ih]

/-- Programs are a lawful monad. -/
theorem lawful : LawfulMonad (Program I) :=
  LawfulMonad.mk' (Program I)
    (fun p => by
      induction p with
      | done a => rfl
      | call c next ih => exact congrArg (call c) (funext ih))
    (fun _ _ => rfl) bind_bind

/-- A layer first answers the first call. -/
theorem through_ask_bind (layer : (c : I.Call) → Program J (I.Reply c)) (c : I.Call) (f : I.Reply c → Program I α) :
    ((ask c).bind f).through layer = (layer c).bind fun r => (f r).through layer := rfl

/-- Programs in a row go through a layer one after the other. -/
theorem through_bind (layer : (c : I.Call) → Program J (I.Reply c)) (p : Program I α) (f : α → Program I β) :
    (p.bind f).through layer = (p.through layer).bind fun a => (f a).through layer := by
  induction p with
  | done a => rfl
  | call c next ih =>
    rw [call_bind, through, through]
    simp only [ih]
    exact (bind_bind (layer c) _ _).symm

/-! ## The calls a program can make -/

/-- Every call that the program can make, whatever it is replied to, satisfies `Q`. -/
def Only (Q : I.Call → Prop) : Program I α → Prop
  | done _ => True
  | call c next => Q c ∧ ∀ r, (next r).Only Q

theorem only_ask {Q : I.Call → Prop} {c : I.Call} (h : Q c) : (ask c).Only Q := ⟨h, fun _ => trivial⟩

theorem Only.mono {Q R : I.Call → Prop} (h : ∀ c, Q c → R c) {p : Program I α} (hp : p.Only Q) : p.Only R := by
  induction p with
  | done a => trivial
  | call c next ih => exact ⟨h c hp.1, fun r => ih r (hp.2 r)⟩

/-- Two programs in a row make the calls of both. -/
theorem Only.bind {Q : I.Call → Prop} {p : Program I α} {f : α → Program I β} (hp : p.Only Q) (hf : ∀ a, (f a).Only Q) :
    (p.bind f).Only Q := by
  induction p with
  | done a => exact hf a
  | call c next ih => exact ⟨hp.1, fun r => ih r (hp.2 r)⟩

/-- Two programs in a row that may fail make no other calls than both. -/
theorem Only.except_bind {Q : I.Call → Prop} {x : ExceptT ε (Program I) α} {f : α → ExceptT ε (Program I) β}
    (hx : Only Q x.run) (hf : ∀ a, Only Q (f a).run) : Only Q (x >>= f).run :=
  hx.bind fun r => match r with
    | .ok a => hf a
    | .error _ => trivial

/-- A layered program makes the calls of the layers of its calls. -/
theorem Only.through {Q : I.Call → Prop} {R : J.Call → Prop} {layer : (c : I.Call) → Program J (I.Reply c)}
    {p : Program I α} (hp : p.Only Q) (hl : ∀ c, Q c → (layer c).Only R) : (p.through layer).Only R := by
  induction p with
  | done a => trivial
  | call c next ih => exact (hl c hp.1).bind fun r => ih r (hp.2 r)

/-- What every call of a program keeps, whatever it is answered, its run keeps. -/
theorem run_preserves {answer : (c : I.Call) → σ → I.Reply c × σ} {Q : I.Call → Prop} {P : σ → Prop}
    (hstep : ∀ c s, Q c → P s → P (answer c s).2) {p : Program I α} (hp : p.Only Q) {s : σ} (hs : P s) :
    P (p.run answer s).2 := by
  induction p generalizing s with
  | done a => exact hs
  | call c next ih => exact ih _ (hp.2 _) (hstep c s hp.1 hs)

theorem only_true (p : Program I α) : p.Only fun _ => True := by
  induction p with
  | done a => trivial
  | call c next ih => exact ⟨trivial, ih⟩

/-- A run from an image of a state is the image of the run, if that holds of every call. -/
theorem run_image {σ' : Type} {answer : (c : I.Call) → σ → I.Reply c × σ} {answer' : (c : I.Call) → σ' → I.Reply c × σ'}
    {Q : I.Call → Prop} (π : σ → σ')
    (hstep : ∀ c s, Q c → answer' c (π s) = ((answer c s).1, π (answer c s).2)) {p : Program I α} (hp : p.Only Q) (s : σ) :
    p.run answer' (π s) = ((p.run answer s).1, π (p.run answer s).2) := by
  induction p generalizing s with
  | done a => rfl
  | call c next ih =>
    rw [run_call, run_call, hstep c s hp.1]
    exact ih _ (hp.2 _) _

/-- A relation between states that every call keeps, with the same reply, a run keeps, with the same answer. -/
theorem run_related {σ' : Type} {answer : (c : I.Call) → σ → I.Reply c × σ} {answer' : (c : I.Call) → σ' → I.Reply c × σ'}
    {Q : I.Call → Prop} {R : σ → σ' → Prop}
    (hstep : ∀ c s s', Q c → R s s' → (answer' c s').1 = (answer c s).1 ∧ R (answer c s).2 (answer' c s').2) {p : Program I α}
    (hp : p.Only Q) {s : σ} {s' : σ'} (h : R s s') :
    (p.run answer' s').1 = (p.run answer s).1 ∧ R (p.run answer s).2 (p.run answer' s').2 := by
  induction p generalizing s s' with
  | done a => exact ⟨rfl, h⟩
  | call c next ih =>
    obtain ⟨hreply, hkept⟩ := hstep c s s' hp.1 h
    rw [run_call, run_call, hreply]
    exact ih _ (hp.2 _) hkept

/-- A layer that makes the calls themselves makes no difference. -/
theorem through_of_only {Q : I.Call → Prop} {layer : (c : I.Call) → Program I (I.Reply c)} (hl : ∀ c, Q c → layer c = ask c)
    {p : Program I α} (hp : p.Only Q) : p.through layer = p := by
  induction p with
  | done a => rfl
  | call c next ih =>
    rw [through, hl c hp.1]
    exact congrArg (call c) (funext fun r => ih r (hp.2 r))

/-! ## The answers a program can end with -/

/-- As long as `R` holds of every call and its reply, the program ends with an answer of which `P` holds. -/
def Yields (R : (c : I.Call) → I.Reply c → Prop) (P : α → Prop) : Program I α → Prop
  | done a => P a
  | call c next => ∀ r, R c r → (next r).Yields R P

variable {R : (c : I.Call) → I.Reply c → Prop} {P : α → Prop}

/-- A program whose every answer satisfies `P` yields such an answer. -/
theorem yields_of_forall (h : ∀ a, P a) (p : Program I α) : p.Yields R P := by
  induction p with
  | done a => exact h a
  | call c next ih => exact fun r _ => ih r

/-- Of two programs in a row, the second yields its answer from what the first yields. -/
theorem Yields.bind {T : β → Prop} {p : Program I α} {f : α → Program I β} (hp : p.Yields R P)
    (hf : ∀ a, P a → (f a).Yields R T) : (p.bind f).Yields R T := by
  induction p with
  | done a => exact hf a hp
  | call c next ih => exact fun r hr => ih r (hp r hr)

/-- A layered program ends as the program does, if the layers of its calls answer as the calls are replied to. -/
theorem Yields.through {Q : I.Call → Prop} {T : (c : J.Call) → J.Reply c → Prop}
    {layer : (c : I.Call) → Program J (I.Reply c)} {p : Program I α} (hp : p.Yields R P) (hq : p.Only Q)
    (hl : ∀ c, Q c → (layer c).Yields T (R c)) : (p.through layer).Yields T P := by
  induction p with
  | done a => exact hp
  | call c next ih => exact (hl c hq.1).bind fun r hr => ih r (hp r hr) (hq.2 r)

/-- A run over a state ends so, if the state replies so as long as the calls keep what holds of it. -/
theorem Yields.run {answer : (c : I.Call) → σ → I.Reply c × σ} {Q : I.Call → Prop} {T : σ → Prop} {p : Program I α}
    (hp : p.Yields R P) (hq : p.Only Q) (hstep : ∀ c s, Q c → T s → R c (answer c s).1 ∧ T (answer c s).2) {s : σ} (hs : T s) :
    P (p.run answer s).1 := by
  induction p generalizing s with
  | done a => exact hp
  | call c next ih =>
    obtain ⟨hr, ht⟩ := hstep c s hq.1 hs
    exact ih _ (hp _ hr) (hq.2 _) ht

/-- What a program ends with whatever it is replied to, its run ends with, whatever layer and state reply. -/
theorem Yields.run_through {layer : (c : I.Call) → Program J (I.Reply c)} {answer : (c : J.Call) → σ → J.Reply c × σ}
    {p : Program I α} (hp : p.Yields (fun _ _ => True) P) (s : σ) : P ((p.through layer).run answer s).1 := by
  have hlayered : (p.through layer).Yields (fun _ _ => True) P :=
    hp.through (only_true p) fun _ _ => yields_of_forall (fun _ => trivial) _
  exact hlayered.run (only_true _) (T := fun _ => True) (fun _ _ _ _ => ⟨trivial, trivial⟩) trivial

/-! ## The exchanges of a run -/

/-- A call, and what it was replied to. -/
abbrev Exchange (I : Interface) := (c : I.Call) × I.Reply c

/-- The exchanges of a run over a state, in order. -/
def exchanges (answer : (c : I.Call) → σ → I.Reply c × σ) : Program I α → σ → List (Exchange I)
  | done _, _ => []
  | call c next, s => ⟨c, (answer c s).1⟩ :: (next (answer c s).1).exchanges answer (answer c s).2

@[simp]
theorem exchanges_done (answer : (c : I.Call) → σ → I.Reply c × σ) (a : α) (s : σ) :
    (done a : Program I α).exchanges answer s = [] := rfl

/-- Two programs in a row: first the exchanges of one, then those of the other, from the state that the first leaves. -/
theorem exchanges_bind (answer : (c : I.Call) → σ → I.Reply c × σ) (p : Program I α) (f : α → Program I β) (s : σ) :
    (p.bind f).exchanges answer s =
      p.exchanges answer s ++ (f (p.run answer s).1).exchanges answer (p.run answer s).2 := by
  induction p generalizing s with
  | done a => rfl
  | call c next ih =>
    rw [call_bind, exchanges, exchanges, run_call, ih, List.cons_append]

/-- Of programs that may fail, what follows a failure is not run. -/
theorem exchanges_except_bind (answer : (c : I.Call) → σ → I.Reply c × σ) (x : ExceptT ε (Program I) α)
    (f : α → ExceptT ε (Program I) β) (s : σ) :
    exchanges answer (x >>= f).run s =
      exchanges answer x.run s ++
        match Program.run answer x.run s with
        | (.ok a, s') => exchanges answer (f a).run s'
        | (.error _, _) => [] := by
  show exchanges answer (Program.bind x.run (ExceptT.bindCont f)) s = _
  rw [exchanges_bind]
  rcases Program.run answer x.run s with ⟨_ | a, s'⟩ <;> rfl

/-- What every exchange keeps, of those so far and the state they led to, a whole run keeps. -/
theorem exchanges_preserve {answer : (c : I.Call) → σ → I.Reply c × σ} {P : List (Exchange I) → σ → Prop}
    (hstep : ∀ c xs s, P xs s → P (xs ++ [⟨c, (answer c s).1⟩]) (answer c s).2) (p : Program I α)
    {xs : List (Exchange I)} {s : σ} (h : P xs s) : P (xs ++ p.exchanges answer s) (p.run answer s).2 := by
  induction p generalizing xs s with
  | done a => rwa [exchanges_done, List.append_nil]
  | call c next ih =>
    rw [exchanges, run_call, List.append_cons]
    exact ih _ (hstep c xs s h)

/-- The exchanges of a run are of calls that the program can make. -/
theorem Only.exchanges {Q : I.Call → Prop} {p : Program I α} (hp : p.Only Q) (answer : (c : I.Call) → σ → I.Reply c × σ)
    (s : σ) : ∀ x ∈ p.exchanges answer s, Q x.1 := by
  induction p generalizing s with
  | done a =>
    intro x hx
    nomatch hx
  | call c next ih =>
    intro x hx
    rcases List.mem_cons.1 hx with rfl | hx
    · exact hp.1
    · exact ih _ (hp.2 _) _ x hx

/-- The program that also answers with its exchanges. -/
def traced : Program I α → Program I (α × List (Exchange I))
  | done a => done (a, [])
  | call c next => call c fun r => (next r).traced.bind fun b => done (b.1, ⟨c, r⟩ :: b.2)

/-- The traced program answers with the exchanges of the run, and leaves the same state. -/
theorem run_traced (answer : (c : I.Call) → σ → I.Reply c × σ) (p : Program I α) (s : σ) :
    p.traced.run answer s = (((p.run answer s).1, p.exchanges answer s), (p.run answer s).2) := by
  induction p generalizing s with
  | done a => rfl
  | call c next ih =>
    rw [traced, run_call, run_bind, ih]
    rfl

/-! ## Programs that differ in their answers -/

/-- The programs make the same calls, and their answers are related. -/
inductive Alike (R : α → β → Prop) : Program I α → Program I β → Prop
  | done {a : α} {b : β} (h : R a b) : Alike R (.done a) (.done b)
  | call (c : I.Call) {next : I.Reply c → Program I α} {next' : I.Reply c → Program I β} (h : ∀ r, Alike R (next r) (next' r)) :
    Alike R (.call c next) (.call c next')

namespace Alike

variable {γ δ : Type} {R : α → β → Prop} {p : Program I α} {q : Program I β}

theorem refl {R : α → α → Prop} (h : ∀ a, R a a) (p : Program I α) : Alike R p p := by
  induction p with
  | done a => exact .done (h a)
  | call c next ih => exact .call c ih

/-- Programs that are alike, with others behind them that are alike on related answers, are alike. -/
theorem bind {S : γ → δ → Prop} (h : Alike R p q) {f : α → Program I γ} {g : β → Program I δ}
    (hfg : ∀ a b, R a b → Alike S (f a) (g b)) : Alike S (p.bind f) (q.bind g) := by
  induction h with
  | done h => exact hfg _ _ h
  | call c _ ih => exact .call c ih

/-- Programs that are alike are alike through a layer. -/
theorem through (h : Alike R p q) (layer : (c : I.Call) → Program J (I.Reply c)) : Alike R (p.through layer) (q.through layer) := by
  induction h with
  | done h => exact .done h
  | call c _ ih =>
    refine (refl (fun _ => rfl) (layer c)).bind ?_
    rintro r _ rfl
    exact ih r

/-- Runs make the same exchanges and end in the same state. -/
theorem run (h : Alike R p q) (answer : (c : I.Call) → σ → I.Reply c × σ) (s : σ) :
    p.exchanges answer s = q.exchanges answer s ∧ (p.run answer s).2 = (q.run answer s).2 ∧
      R (p.run answer s).1 (q.run answer s).1 := by
  induction h generalizing s with
  | done h => exact ⟨rfl, rfl, h⟩
  | call c _ ih =>
    obtain ⟨hexchanges, hrest⟩ := ih (answer c s).1 (answer c s).2
    exact ⟨congrArg (List.cons _) hexchanges, hrest⟩

end Alike

end VolumeDriver.Program
