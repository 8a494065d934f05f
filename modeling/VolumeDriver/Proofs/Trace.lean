import VolumeDriver.Proofs.Net.Numerals
import VolumeDriver.Trace

/-!
# What a trace tells

Two values may be written alike. `Trace.Discloses` says of a way to write values which of them are, with whatever behind them: so it
says what can be told from a trace, and that the end of a value can be told too. A quoted text is told in full, since an escaped
character can be read back (`Text.readEscaped_escape`). What is told of a list, an optional value or a record is what is told of its
parts.
-/

namespace VolumeDriver

namespace Text

variable {c d : Char} {s t cs ds : List Char}

/-! ## Quoted texts -/

/-- The character that a letter behind a backslash stands for. -/
def meant (letter : Char) : Char :=
  if letter = '0' then '\x00' else if letter = 't' then '\t' else if letter = 'n' then '\n' else if letter = 'r' then '\r' else letter

/-- Reads a character in its escaped form, and what is behind it. -/
def readEscaped : List Char → Option (Char × List Char)
  | '\\' :: 'u' :: code =>
    some (Char.ofNat (Net.ofDigits 16 (Net.takeDigits Net.hexDigit? code.tail).1), (Net.takeDigits Net.hexDigit? code.tail).2.tail)
  | '\\' :: letter :: rest => some (meant letter, rest)
  | c :: rest => some (c, rest)
  | [] => none

/-- A character that is no backslash is read as itself. -/
theorem readEscaped_of_ne (h : c ≠ '\\') (rest : List Char) : readEscaped (c :: rest) = some (c, rest) := by
  unfold readEscaped
  split <;> simp_all

/-- The code of a character is read as that character. -/
theorem readEscaped_code (c : Char) (rest : List Char) : readEscaped (escapeCode c ++ rest) = some (c, rest) := by
  obtain ⟨digits, hwrites, hvalue⟩ := Net.exists_writes_toDigits (by decide : 1 < 16) (Nat.le_refl 16) c.toNat
  have hstops : Net.Stops Net.hexDigit? ('\x7d' :: rest) := Net.stops_cons (by decide) rest
  have htext : escapeCode c ++ rest = '\\' :: 'u' :: '\x7b' :: (Nat.toDigits 16 c.toNat ++ '\x7d' :: rest) := by
    simp [escapeCode]
  rw [htext, readEscaped, List.tail_cons, Net.takeDigits_append hwrites hstops, hvalue, Char.ofNat_toNat, List.tail_cons]

/-- A character is read back from its escaped form. -/
theorem readEscaped_escape (c : Char) (rest : List Char) : readEscaped (escape c ++ rest) = some (c, rest) := by
  fun_cases escape c
  case case7 _ _ _ _ hbackslash _ => exact readEscaped_of_ne hbackslash rest
  case case8 => exact readEscaped_code c rest
  all_goals
    subst c
    rfl

/-- Escaped characters can be told apart, whatever is behind them. -/
theorem escape_append_inj : escape c ++ cs = escape d ++ ds ↔ c = d ∧ cs = ds := by
  constructor
  · intro h
    have hread := congrArg readEscaped h
    rwa [readEscaped_escape, readEscaped_escape, Option.some.injEq, Prod.mk.injEq] at hread
  · rintro ⟨rfl, rfl⟩
    rfl

/-- An escaped character does not begin with a quote. -/
theorem escape_append_ne (c : Char) (cs ds : List Char) : escape c ++ cs ≠ '"' :: ds := by
  fun_cases escape c
  case case7 _ _ _ hquote _ _ => exact fun h => hquote (List.cons.inj h).1
  all_goals exact fun h => absurd (List.cons.inj h).1 (by decide)

/-- Escaped characters up to a quote are told apart from others. -/
theorem flatMap_escape_inj : s.flatMap escape ++ '"' :: cs = t.flatMap escape ++ '"' :: ds ↔ s = t ∧ cs = ds := by
  induction s generalizing t with
  | nil =>
    cases t with
    | nil => simp
    | cons d t =>
      rw [List.flatMap_nil, List.nil_append, List.flatMap_cons, List.append_assoc]
      exact iff_of_false (escape_append_ne d _ _).symm (by simp)
  | cons c s ih =>
    cases t with
    | nil =>
      rw [List.flatMap_nil, List.nil_append, List.flatMap_cons, List.append_assoc]
      exact iff_of_false (escape_append_ne c _ _) (by simp)
    | cons d t =>
      rw [List.flatMap_cons, List.flatMap_cons, List.append_assoc, List.append_assoc, escape_append_inj, ih, List.cons.injEq,
        and_assoc]

end Text

namespace Trace

variable {α ω : Type} {f g : α → String} {R S : α → α → Prop}

/-- Values are written alike, with the same behind them, exactly if they are alike. -/
def Discloses (f : α → String) (alike : α → α → Prop) : Prop :=
  ∀ a b cs ds, (f a).toList ++ cs = (f b).toList ++ ds ↔ alike a b ∧ cs = ds

namespace Discloses

/-! ## What is told of values -/

/-- Values are written alike exactly if they are alike. -/
theorem eq_iff (h : Discloses f R) {a b : α} : f a = f b ↔ R a b := by
  rw [← String.toList_inj, ← List.append_nil (f a).toList, ← List.append_nil (f b).toList, h]
  exact and_iff_left rfl

/-- Likeness may be stated in another way. -/
theorem of_iff (h : Discloses f R) (hRS : ∀ a b, R a b ↔ S a b) : Discloses f S := fun a b cs ds =>
  (h a b cs ds).trans (and_congr_left' (hRS a b))

/-- A text that is the same for all values tells nothing. -/
theorem const (s : String) : Discloses (fun _ : α => s) fun _ _ => True := by
  intro a b cs ds
  rw [List.append_cancel_left_eq, true_and]

/-- Two texts in a row tell what both tell. -/
theorem append (hf : Discloses f R) (hg : Discloses g S) : Discloses (fun a => f a ++ g a) fun a b => R a b ∧ S a b := by
  intro a b cs ds
  rw [String.toList_append, String.toList_append, List.append_assoc, List.append_assoc, hf, hg, and_assoc]

/-- A value is told as a part of another. -/
theorem on (h : Discloses f R) (part : ω → α) : Discloses (fun o => f (part o)) fun o p => R (part o) (part p) :=
  fun o p => h (part o) (part p)

/-- Fixed texts around a value tell nothing more of it. -/
theorem between (before after : String) (h : Discloses f R) : Discloses (fun a => before ++ f a ++ after) R :=
  (((const before).append h).append (const after)).of_iff fun a b => by simp

/-- A quoted text tells itself. -/
theorem quote : Discloses Text.quote Eq := by
  intro s t cs ds
  have hchars (s : String) (cs : List Char) : (Text.quote s).toList ++ cs = '"' :: (s.toList.flatMap Text.escape ++ '"' :: cs) := by
    simp [Text.quote]
  rw [hchars, hchars, List.cons.injEq, Text.flatMap_escape_inj, String.toList_inj]
  exact and_iff_right rfl

/-- A truth value tells itself. -/
theorem bool : Discloses Trace.bool Eq := by
  intro a b cs ds
  cases a <;> cases b <;> simp [Trace.bool]

/-- An optional value tells whether it is there, and what it tells. -/
theorem option (h : Discloses f R) : Discloses (Trace.option f) (Option.Rel R) := by
  rintro (_ | a) (_ | b) cs ds
  · simp [Trace.option]
  · simp [Trace.option]
  · simp [Trace.option]
  · rw [Option.rel_some_some]
    exact h.between "Some(" ")" a b cs ds

/-! ## Lists -/

/-- The values of a list but the first, as they are written. -/
def following (f : α → String) (as : List α) : List Char := as.flatMap fun a => ',' :: ' ' :: (f a).toList

/-- A list is written value by value in brackets. -/
theorem chars_list (f : α → String) (a : α) (as : List α) (cs : List Char) :
    (Trace.list f (a :: as)).toList ++ cs = '[' :: ((f a).toList ++ (following f as ++ ']' :: cs)) := by
  have hjoined : (Text.joinWith ", " ((a :: as).map f)).toList = (f a).toList ++ following f as := by
    induction as generalizing a with
    | nil => simp [Text.joinWith, following]
    | cons b as ih =>
      have hmore : Text.joinWith ", " ((a :: b :: as).map f) = f a ++ ", " ++ Text.joinWith ", " ((b :: as).map f) := rfl
      rw [hmore, String.toList_append, ih]
      simp [following]
  rw [Trace.list, String.toList_append, String.toList_append, hjoined]
  simp

/-- The values behind the first are told one by one, with the bracket behind the last of them. -/
theorem following_inj (h : Discloses f R) (as bs : List α) {cs ds : List Char} :
    following f as ++ ']' :: cs = following f bs ++ ']' :: ds ↔ List.Forall₂ R as bs ∧ cs = ds := by
  have hcons (a : α) (as : List α) (cs : List Char) :
      following f (a :: as) ++ ']' :: cs = ',' :: ' ' :: ((f a).toList ++ (following f as ++ ']' :: cs)) := by
    simp [following]
  induction as generalizing bs with
  | nil =>
    cases bs with
    | nil => simp [following]
    | cons b bs =>
      rw [hcons]
      simp [following]
  | cons a as ih =>
    cases bs with
    | nil =>
      rw [hcons]
      simp [following]
    | cons b bs =>
      rw [hcons, hcons, List.cons.injEq, List.cons.injEq, and_iff_right rfl, and_iff_right rfl, h, List.forall₂_cons, and_assoc]
      exact and_congr_right' (ih bs)

/-- A list is told by its values, if none of them begins as a list ends. -/
theorem list (h : Discloses f R) (hfirst : ∀ a cs ds, (f a).toList ++ cs ≠ ']' :: ds) :
    Discloses (Trace.list f) (List.Forall₂ R) := by
  have hnil (cs : List Char) : (Trace.list f []).toList ++ cs = '[' :: ']' :: cs := by
    simp [Trace.list, Text.joinWith]
  rintro (_ | ⟨a, as⟩) (_ | ⟨b, bs⟩) cs ds
  · simp [hnil]
  · rw [hnil, chars_list, List.cons.injEq]
    exact iff_of_false (fun heq => hfirst b _ _ heq.2.symm) (by simp)
  · rw [hnil, chars_list, List.cons.injEq]
    exact iff_of_false (fun heq => hfirst a _ _ heq.2) (by simp)
  · rw [chars_list, chars_list, List.cons.injEq, h, following_inj h as bs, List.forall₂_cons, and_assoc, and_iff_right rfl]

/-- Quoted texts of a list are all told. -/
theorem quotes : Discloses (Trace.list Text.quote) Eq :=
  (quote.list fun s cs ds => by simp [Text.quote]).of_iff fun as bs => by rw [List.forall₂_eq_eq_eq]

end Discloses

/-! ## Records -/

/-- A field of a record: its name, how it is written, and of which records it is written alike. -/
structure Field (α : Type) where
  key : String
  text : α → String
  alike : α → α → Prop

namespace Discloses

/-- Fields with their names tell what each of them tells. -/
theorem fields {fields : List (Field α)} (h : ∀ x ∈ fields, Discloses x.text x.alike) :
    Discloses (fun a => Text.joinWith ", " (fields.map fun x => x.key ++ ": " ++ x.text a)) fun a b => ∀ x ∈ fields, x.alike a b := by
  induction fields with
  | nil => exact (const "").of_iff fun a b => by simp
  | cons x fields ih =>
    obtain ⟨hx, hfields⟩ := List.forall_mem_cons.1 h
    have hfield : Discloses (fun a => x.key ++ ": " ++ x.text a) x.alike :=
      ((const (x.key ++ ": ")).append hx).of_iff fun a b => by simp
    cases fields with
    | nil => exact hfield.of_iff fun a b => by simp
    | cons y fields => exact ((hfield.append (const ", ")).append (ih hfields)).of_iff fun a b => by simp

/-- A record is told by its fields. -/
theorem record (name : String) {fields : List (Field α)} (h : ∀ x ∈ fields, Discloses x.text x.alike) :
    Discloses (fun a => Trace.record name (fields.map fun x => (x.key, x.text a))) fun a b => ∀ x ∈ fields, x.alike a b := by
  cases fields with
  | nil => exact (const name).of_iff fun a b => by simp
  | cons x fields =>
    have hfields := (Discloses.fields h).between (name ++ " \x7b ") " \x7d"
    have hrecord (a : α) : Trace.record name ((x :: fields).map fun x => (x.key, x.text a)) =
        name ++ " \x7b " ++ Text.joinWith ", " ((x :: fields).map fun x => x.key ++ ": " ++ x.text a) ++ " \x7d" := by
      simp [Trace.record, Function.comp_def]
    simpa only [hrecord] using hfields

end Discloses

end Trace

end VolumeDriver
