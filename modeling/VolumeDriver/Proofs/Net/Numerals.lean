import Mathlib.Data.List.Forall2
import Mathlib.Data.UInt
import VolumeDriver.Net.Address
import VolumeDriver.Proofs.Decimal

/-!
# Numerals of addresses

A run of digits is taken as far as it goes (`takeDigits_eq_iff`). So each reader of a number takes a numeral off the beginning of a
text, if no further digit follows, and nothing else: an octet is read from its decimal form alone, a port or a scope also from that form
behind zeros, and a group from one to four hexadecimal digits.
-/

namespace VolumeDriver.Net

variable {digit? : Char → Option Nat} {cs text rest : List Char} {ds : List Nat}

/-! ## Digits -/

/-- The characters are the digits. -/
def Writes (digit? : Char → Option Nat) (text : List Char) (ds : List Nat) : Prop :=
  List.Forall₂ (fun c d => digit? c = some d) text ds

/-- The text does not go on with a digit. -/
def Stops (digit? : Char → Option Nat) (rest : List Char) : Prop := ∀ c ∈ rest.head?, digit? c = none

theorem stops_cons {c : Char} (h : digit? c = none) (rest : List Char) : Stops digit? (c :: rest) := by
  rintro _ ⟨⟩
  exact h

/-- Digits are taken up to the first character that is none. -/
theorem takeDigits_eq_iff :
    takeDigits digit? cs = (ds, rest) ↔ ∃ text, cs = text ++ rest ∧ Writes digit? text ds ∧ Stops digit? rest := by
  induction cs generalizing ds with
  | nil =>
    rw [takeDigits, Prod.mk.injEq]
    constructor
    · rintro ⟨rfl, rfl⟩
      exact ⟨[], rfl, .nil, nofun⟩
    · rintro ⟨text, happend, hwrites, _⟩
      obtain ⟨rfl, rfl⟩ := List.append_eq_nil_iff.1 happend.symm
      cases hwrites
      exact ⟨rfl, rfl⟩
  | cons c cs ih =>
    rw [takeDigits]
    cases hc : digit? c with
    | none =>
      dsimp only
      rw [Prod.mk.injEq]
      constructor
      · rintro ⟨rfl, rfl⟩
        exact ⟨[], rfl, .nil, stops_cons hc cs⟩
      · rintro ⟨text, happend, hwrites, _⟩
        cases hwrites with
        | nil => exact ⟨rfl, happend⟩
        | cons hd _ =>
          obtain ⟨rfl, _⟩ := List.cons.inj happend
          cases hc.symm.trans hd
    | some d =>
      dsimp only
      rw [Prod.mk.injEq]
      constructor
      · rintro ⟨rfl, rfl⟩
        obtain ⟨text, happend, hwrites, hstops⟩ := ih.1 rfl
        exact ⟨c :: text, congrArg (List.cons c) happend, .cons hc hwrites, hstops⟩
      · rintro ⟨text, happend, hwrites, hstops⟩
        cases hwrites with
        | nil =>
          have hnone := hstops c (by rw [← List.nil_append rest, ← happend]; rfl)
          cases hc.symm.trans hnone
        | @cons _ e text es he hwrites =>
          obtain ⟨rfl, htail⟩ := List.cons.inj happend
          rw [ih.2 ⟨text, htail, hwrites, hstops⟩, Option.some.inj (hc.symm.trans he)]
          exact ⟨rfl, rfl⟩

/-- Digits and what follows them are told apart in one way. -/
theorem takeDigits_append (hwrites : Writes digit? text ds) (hstops : Stops digit? rest) :
    takeDigits digit? (text ++ rest) = (ds, rest) := takeDigits_eq_iff.2 ⟨text, rfl, hwrites, hstops⟩

/-- A reader that takes digits off, refuses some, and gives the value of the others. -/
theorem readDigits_eq_some_iff {α : Type} (refused : List Nat → Prop) [DecidablePred refused] (value : List Nat → α) {a : α} :
    (let (ds, behind) := takeDigits digit? cs
      if refused ds then none else some (value ds, behind)) = some (a, rest) ↔
      ∃ text ds, cs = text ++ rest ∧ Stops digit? rest ∧ Writes digit? text ds ∧ ¬ refused ds ∧ value ds = a := by
  constructor
  · rcases htake : takeDigits digit? cs with ⟨ds, behind⟩
    obtain ⟨text, rfl, hwrites, hstops⟩ := takeDigits_eq_iff.1 htake
    intro h
    obtain ⟨haccepted, hvalue⟩ := Option.ite_none_left_eq_some.1 h
    obtain ⟨rfl, rfl⟩ := Prod.mk.inj (Option.some.inj hvalue)
    exact ⟨text, ds, rfl, hstops, hwrites, haccepted, rfl⟩
  · rintro ⟨text, ds, rfl, hstops, hwrites, haccepted, rfl⟩
    rw [takeDigits_append hwrites hstops]
    exact if_neg haccepted

/-- A digit behind others adds itself to the base times their number. -/
theorem ofDigits_concat (base : Nat) (ds : List Nat) (d : Nat) : ofDigits base (ds ++ [d]) = base * ofDigits base ds + d := by
  rw [ofDigits, List.foldl_append]
  rfl

/-! ## Decimal numerals -/

/-- A decimal numeral: the decimal form of the number, behind any zeros. -/
def Numeral (n : Nat) (text : List Char) : Prop := ∃ zeros, text = List.replicate zeros '0' ++ Nat.toDigits 10 n

/-- A decimal digit is read as its distance from zero. -/
theorem isDigit_of_digit? {c : Char} {d : Nat} (h : Text.digit? c = some d) : c.isDigit = true ∧ d = c.toNat - '0'.toNat := by
  by_cases hc : c.isDigit = true
  · rw [Text.digit?_of_isDigit hc] at h
    exact ⟨hc, (Option.some.inj h).symm⟩
  · rw [Text.digit?_of_not_isDigit hc] at h
    cases h

/-- A text that writes decimal digits has no other characters. -/
theorem isDigit_of_writes (h : Writes Text.digit? text ds) : ∀ c ∈ text, c.isDigit = true := by
  induction h with
  | nil => exact nofun
  | cons hd _ ih => exact List.forall_mem_cons.2 ⟨(isDigit_of_digit? hd).1, ih⟩

/-- Decimal digits stand for the number that is read from their characters. -/
theorem ofDigits_of_writes (h : Writes Text.digit? text ds) : ofDigits 10 ds = Nat.ofDigitChars 10 text 0 := by
  have hvalue : ∀ n, List.foldl (fun n d => 10 * n + d) n ds = Nat.ofDigitChars 10 text n := by
    induction h with
    | nil => exact fun n => rfl
    | cons hd _ ih =>
      intro n
      rw [List.foldl_cons, ih, Nat.ofDigitChars_cons, (isDigit_of_digit? hd).2]
  exact hvalue 0

/-- A text of digits is read digit by digit. -/
theorem writes_of_isDigit (h : ∀ c ∈ text, c.isDigit = true) : ∃ ds, Writes Text.digit? text ds := by
  induction text with
  | nil => exact ⟨[], .nil⟩
  | cons c cs ih =>
    obtain ⟨hc, hcs⟩ := List.forall_mem_cons.1 h
    obtain ⟨ds, hds⟩ := ih hcs
    exact ⟨_, .cons (Text.digit?_of_isDigit hc) hds⟩

/-- Decimal digits, at least one, are a numeral of the number that they stand for. -/
theorem numeral_iff {n : Nat} : Numeral n text ↔ ∃ ds, Writes Text.digit? text ds ∧ ds ≠ [] ∧ ofDigits 10 ds = n := by
  constructor
  · rintro ⟨zeros, rfl⟩
    obtain ⟨hsome, hdigits, hvalue⟩ := Text.zeros_append_toDigits zeros n
    obtain ⟨ds, hwrites⟩ := writes_of_isDigit hdigits
    refine ⟨ds, hwrites, ?_, (ofDigits_of_writes hwrites).trans hvalue⟩
    rintro rfl
    exact hsome (List.forall₂_nil_right_iff.1 hwrites)
  · rintro ⟨ds, hwrites, hsome, rfl⟩
    rw [ofDigits_of_writes hwrites]
    refine Text.eq_zeros_append_toDigits ?_ (isDigit_of_writes hwrites)
    rintro rfl
    exact hsome (List.forall₂_nil_left_iff.1 hwrites)

/-- A number up to a bound is read from its numerals. -/
theorem readDecimal_eq_some_iff {bound n : Nat} :
    readDecimal bound cs = some (n, rest) ↔ ∃ text, cs = text ++ rest ∧ Numeral n text ∧ n ≤ bound ∧ Stops Text.digit? rest := by
  refine (readDigits_eq_some_iff (fun ds => ds.isEmpty ∨ bound < ofDigits 10 ds) (ofDigits 10)).trans ?_
  simp only [not_or, List.isEmpty_iff, Nat.not_lt]
  constructor
  · rintro ⟨text, ds, rfl, hstops, hwrites, ⟨hsome, hbound⟩, rfl⟩
    exact ⟨text, rfl, numeral_iff.2 ⟨ds, hwrites, hsome, rfl⟩, hbound, hstops⟩
  · rintro ⟨text, rfl, hnumeral, hbound, hstops⟩
    obtain ⟨ds, hwrites, hsome, rfl⟩ := numeral_iff.1 hnumeral
    exact ⟨text, ds, rfl, hstops, hwrites, ⟨hsome, hbound⟩, rfl⟩

/-- A numeral is the decimal form of its number, if it has no zero before other digits. -/
theorem Numeral.eq_toDigits_iff {n : Nat} (h : Numeral n text) (hwrites : Writes Text.digit? text ds) :
    text = Nat.toDigits 10 n ↔ ¬ (ds.head? = some 0 ∧ 1 < ds.length) := by
  have hspelling : Text.Spelling n text := by
    obtain ⟨zeros, rfl⟩ := h
    exact .unsigned zeros
  rw [hspelling.eq_toDigits_iff, Text.Undecorated]
  cases hwrites with
  | nil => simp
  | @cons c d cs ds hd hmore =>
    obtain ⟨hdigit, rfl⟩ := isDigit_of_digit? hd
    have hsign : c ≠ '+' := by
      rintro rfl
      exact absurd hdigit (by decide)
    have hzero : c.toNat - 48 = 0 ↔ c = '0' := by
      refine ⟨fun hvalue => ?_, ?_⟩
      · have hvalue : c.toNat - '0'.toNat = 0 := hvalue
        rw [← Text.digitChar_of_isDigit hdigit, hvalue]
        rfl
      · rintro rfl
        rfl
    have hlast : cs = [] ↔ ¬ 1 < (ds.length + 1) := by
      rw [← hmore.length_eq, ← List.length_eq_zero_iff]
      omega
    simp only [List.head?_cons, Option.some.injEq, ne_eq, hsign, not_false_eq_true, true_and, List.cons.injEq, List.length_cons, hlast,
      not_and]
    rw [show '0'.toNat = 48 from rfl, hzero]
    exact imp_congr_right fun hc => and_iff_right hc

/-- A character that is no hexadecimal digit is no decimal one. -/
theorem stops_of_hexDigit {c : Char} (h : hexDigit? c = none) : Text.digit? c = none := by
  rw [hexDigit?] at h
  split at h
  · cases h
  · exact if_neg ‹_›

/-- An octet is read from its decimal form. -/
theorem readOctet_eq_some_iff {a : UInt8} :
    readOctet cs = some (a, rest) ↔ cs = Nat.toDigits 10 a.toNat ++ rest ∧ Stops Text.digit? rest := by
  refine (readDigits_eq_some_iff (fun ds => ds.isEmpty ∨ 3 < ds.length ∨ (ds.head? = some 0 ∧ 1 < ds.length) ∨ 255 < ofDigits 10 ds)
    fun ds => (ofDigits 10 ds).toUInt8).trans ?_
  simp only [not_or, List.isEmpty_iff, Nat.not_lt]
  constructor
  · rintro ⟨text, ds, rfl, hstops, hwrites, ⟨hsome, _, hzero, hbound⟩, rfl⟩
    have hnumeral : Numeral (ofDigits 10 ds) text := numeral_iff.2 ⟨ds, hwrites, hsome, rfl⟩
    have hvalue : (ofDigits 10 ds).toUInt8.toNat = ofDigits 10 ds := UInt8.toNat_ofNat_of_lt' (Nat.lt_succ_of_le hbound)
    rw [hvalue, ← (hnumeral.eq_toDigits_iff hwrites).2 hzero]
    exact ⟨rfl, hstops⟩
  · rintro ⟨rfl, hstops⟩
    have hnumeral : Numeral a.toNat (Nat.toDigits 10 a.toNat) := ⟨0, rfl⟩
    obtain ⟨ds, hwrites, hsome, hvalue⟩ := numeral_iff.1 hnumeral
    have hbound : a.toNat < 256 := a.toNat_lt
    have hlength : ds.length ≤ 3 := by
      rw [← hwrites.length_eq, Nat.length_toDigits_le_iff (by decide) (by decide)]
      omega
    refine ⟨_, ds, rfl, hstops, hwrites, ⟨hsome, hlength, (hnumeral.eq_toDigits_iff hwrites).1 rfl, by omega⟩, ?_⟩
    rw [hvalue]
    exact UInt8.ofNat_toNat

/-! ## Hexadecimal groups -/

/-- A group of an IPv6 address: one to four hexadecimal digits of its value. -/
def Group (g : UInt16) (text : List Char) : Prop :=
  ∃ ds, Writes hexDigit? text ds ∧ 1 ≤ ds.length ∧ ds.length ≤ 4 ∧ ofDigits 16 ds = g.toNat

/-- A hexadecimal digit is less than sixteen. -/
theorem hexDigit_lt {c : Char} {d : Nat} (h : hexDigit? c = some d) : d < 16 := by
  have hrange {first last : Char} {value : Nat} (hc : first ≤ c ∧ c ≤ last) (hlast : last.toNat + value < first.toNat + 16) :
      c.toNat - first.toNat + value < 16 := by
    have hle : first.toNat ≤ c.toNat := UInt32.le_iff_toNat_le.1 hc.1
    have hge : c.toNat ≤ last.toNat := UInt32.le_iff_toNat_le.1 hc.2
    omega
  rw [hexDigit?] at h
  split at h
  · rename_i hdecimal
    cases h
    exact hrange hdecimal (by decide : '9'.toNat + 0 < '0'.toNat + 16)
  split at h
  · rename_i hlower
    cases h
    exact hrange hlower (by decide)
  split at h
  · rename_i hupper
    cases h
    exact hrange hupper (by decide)
  · cases h

/-- Digits below a base write a number below its power. -/
theorem ofDigits_lt {base : Nat} (h : ∀ d ∈ ds, d < base) : ofDigits base ds < base ^ ds.length := by
  have hstep : ∀ n, List.foldl (fun n d => base * n + d) n ds < (n + 1) * base ^ ds.length := by
    induction ds with
    | nil => simp
    | cons d ds ih =>
      intro n
      obtain ⟨hd, hds⟩ := List.forall_mem_cons.1 h
      calc List.foldl (fun n d => base * n + d) n (d :: ds)
          < (base * n + d + 1) * base ^ ds.length := ih hds _
        _ ≤ ((n + 1) * base) * base ^ ds.length := Nat.mul_le_mul_right _ (by rw [Nat.add_mul, Nat.mul_comm n]; omega)
        _ = (n + 1) * base ^ (d :: ds).length := by rw [List.length_cons, Nat.pow_succ', Nat.mul_assoc]
  simpa [ofDigits] using hstep 0

/-- Hexadecimal digits write a number below the power of sixteen of their count. -/
theorem ofDigits_lt_of_writes (h : Writes hexDigit? text ds) : ofDigits 16 ds < 16 ^ ds.length := by
  refine ofDigits_lt ?_
  induction h with
  | nil => exact nofun
  | cons hd _ ih => exact List.forall_mem_cons.2 ⟨hexDigit_lt hd, ih⟩

/-- A group is read from its digits. -/
theorem readGroup_eq_some_iff {g : UInt16} :
    readGroup cs = some (g, rest) ↔ ∃ text, cs = text ++ rest ∧ Group g text ∧ Stops hexDigit? rest := by
  refine (readDigits_eq_some_iff (fun ds => ds.isEmpty ∨ 4 < ds.length) fun ds => (ofDigits 16 ds).toUInt16).trans ?_
  simp only [not_or, List.isEmpty_iff, Nat.not_lt]
  constructor
  · rintro ⟨text, ds, rfl, hstops, hwrites, ⟨hsome, hmost⟩, rfl⟩
    have hbound : ofDigits 16 ds < 16 ^ 4 :=
      Nat.lt_of_lt_of_le (ofDigits_lt_of_writes hwrites) (Nat.pow_le_pow_right (by decide) hmost)
    have hvalue : (ofDigits 16 ds).toUInt16.toNat = ofDigits 16 ds := UInt16.toNat_ofNat_of_lt' hbound
    exact ⟨text, rfl, ⟨ds, hwrites, List.length_pos_iff.2 hsome, hmost, hvalue.symm⟩, hstops⟩
  · rintro ⟨text, rfl, ⟨ds, hwrites, hleast, hmost, hvalue⟩, hstops⟩
    refine ⟨text, ds, rfl, hstops, hwrites, ⟨List.length_pos_iff.1 hleast, hmost⟩, ?_⟩
    rw [hvalue]
    exact UInt16.ofNat_toNat

/-- A number is written by its digits in a base, which are hexadecimal digits. -/
theorem exists_writes_toDigits {base : Nat} (hleast : 1 < base) (hmost : base ≤ 16) (n : Nat) :
    ∃ ds, Writes hexDigit? (Nat.toDigits base n) ds ∧ ofDigits base ds = n := by
  have hdigit : ∀ d < 16, hexDigit? d.digitChar = some d := by decide
  induction n using Nat.strongRecOn with
  | ind n ih =>
    by_cases hn : n < base
    · refine ⟨[n], ?_, ?_⟩
      · rw [Nat.toDigits_of_lt_base hn]
        exact .cons (hdigit n (by omega)) .nil
      · rw [ofDigits, List.foldl_cons, Nat.mul_zero, Nat.zero_add]
        rfl
    · have hle : base ≤ n := Nat.le_of_not_lt hn
      have hlast : n % base < base := Nat.mod_lt _ (by omega)
      obtain ⟨ds, hwrites, hvalue⟩ := ih (n / base) (Nat.div_lt_self (by omega) hleast)
      refine ⟨ds ++ [n % base], ?_, ?_⟩
      · rw [Nat.toDigits_of_base_le hleast hle]
        exact List.rel_append hwrites (.cons (hdigit _ (by omega)) .nil)
      · rw [ofDigits_concat, hvalue, Nat.div_add_mod]

/-- The hexadecimal form of a value is a group. -/
theorem group_toDigits (g : UInt16) : Group g (Nat.toDigits 16 g.toNat) := by
  obtain ⟨ds, hwrites, hvalue⟩ := exists_writes_toDigits (by decide : 1 < 16) (Nat.le_refl 16) g.toNat
  have hlength := hwrites.length_eq
  have hsome := Nat.length_toDigits_pos (b := 16) (n := g.toNat)
  have hfew : (Nat.toDigits 16 g.toNat).length ≤ 4 := (Nat.length_toDigits_le_iff (by decide) (by decide)).2 g.toNat_lt
  exact ⟨ds, hwrites, by omega, by omega, hvalue⟩

end VolumeDriver.Net
