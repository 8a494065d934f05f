import VolumeDriver.Volume

/-!
# Decimal forms are read back

Digits are read up to the limit as the number that they stand for, and nothing else is (`readDigits_ok_iff`). So a number is read
from its numerals within the limits (`readInt_ok_iff`), of which its decimal form is one. An identifier is read from its decimal form,
and also from that form behind zeros or a plus sign (`VolumeId.ofString_ok_iff`).
-/

namespace VolumeDriver

namespace Text

/-- A decimal digit is read as its value. -/
theorem digit?_of_isDigit {c : Char} (h : c.isDigit = true) : digit? c = some (c.toNat - '0'.toNat) := by
  have hrange : '0' ≤ c ∧ c ≤ '9' := by
    simpa [Char.isDigit, Char.le_def] using h
  rw [digit?, if_pos hrange]

/-- No other character is read as a digit. -/
theorem digit?_of_not_isDigit {c : Char} (h : ¬ c.isDigit = true) : digit? c = none := by
  refine if_neg fun hrange => h ?_
  simpa [Char.isDigit, Char.le_def] using hrange

/-- Further digits make a number no smaller. -/
theorem le_ofDigitChars (cs : List Char) (n : Nat) : n ≤ Nat.ofDigitChars 10 cs n := by
  induction cs generalizing n with
  | nil => exact Nat.le_refl n
  | cons c cs ih =>
    have hmore := ih (10 * n + (c.toNat - '0'.toNat))
    have hstep : Nat.ofDigitChars 10 (c :: cs) n = Nat.ofDigitChars 10 cs (10 * n + (c.toNat - '0'.toNat)) := rfl
    omega

/-- Digits are read as the number that they stand for, if that is within the limit; nothing else is read. -/
theorem readDigits_ok_iff {limit : Nat} {overflow : NumberError} {cs : List Char} {n m : Nat} (hn : n ≤ limit) :
    readDigits limit overflow n cs = .ok m ↔ (∀ c ∈ cs, c.isDigit = true) ∧ Nat.ofDigitChars 10 cs n = m ∧ m ≤ limit := by
  induction cs generalizing n with
  | nil =>
    have hvalue : Nat.ofDigitChars 10 [] n = n := rfl
    rw [readDigits, hvalue, Except.ok.injEq]
    exact ⟨fun h => ⟨by simp, h, h ▸ hn⟩, fun h => h.2.1⟩
  | cons c cs ih =>
    have hstep : Nat.ofDigitChars 10 (c :: cs) n = Nat.ofDigitChars 10 cs (10 * n + (c.toNat - '0'.toNat)) := rfl
    rw [readDigits, hstep, List.forall_mem_cons]
    by_cases hc : c.isDigit = true
    · rw [digit?_of_isDigit hc]
      dsimp only
      split
      · rename_i hover
        -- what is read so far is no larger than what would be read in the end
        have hmore := le_ofDigitChars cs (10 * n + (c.toNat - '0'.toNat))
        exact iff_of_false (by simp) fun h => by omega
      · rename_i hfits
        rw [ih (Nat.le_of_not_lt hfits)]
        simp [hc]
    · rw [digit?_of_not_isDigit hc]
      exact iff_of_false (by simp) fun h => hc h.1.1

/-- Digits need no sign before them. -/
theorem readNat_of_digits {limit : Nat} {cs : List Char} (hsome : cs ≠ []) (hdigits : ∀ c ∈ cs, c.isDigit = true)
    (hlimit : Nat.ofDigitChars 10 cs 0 ≤ limit) : readNat limit cs = .ok (Nat.ofDigitChars 10 cs 0) := by
  have hsign : '+' ∉ cs := fun h => absurd (hdigits '+' h) (by decide)
  unfold readNat
  split
  · exact absurd rfl hsome
  · exact absurd List.mem_cons_self hsign
  · exact absurd List.mem_cons_self hsign
  · exact (readDigits_ok_iff (Nat.zero_le _)).2 ⟨hdigits, rfl, hlimit⟩

/-- A number within the limit is read back from its digits. -/
theorem readNat_toDigits {limit n : Nat} (h : n ≤ limit) : readNat limit (Nat.toDigits 10 n) = .ok n := by
  have hvalue : Nat.ofDigitChars 10 (Nat.toDigits 10 n) 0 = n := Nat.ofDigitChars_ten_toDigits
  have hdigits : ∀ c ∈ Nat.toDigits 10 n, c.isDigit = true := fun c => Nat.isDigit_of_mem_toDigits (by decide) (by decide)
  have hlimit : Nat.ofDigitChars 10 (Nat.toDigits 10 n) 0 ≤ limit := by rwa [hvalue]
  rw [readNat_of_digits Nat.toDigits_ne_nil hdigits hlimit, hvalue]

/-- A number of 64 bits is read from its decimal form. -/
theorem readUInt64_toString (n : UInt64) : readUInt64 (toString n) = .ok n := by
  have hchars : (toString n).toList = Nat.toDigits 10 n.toNat := Nat.toList_repr
  have hlimit : n.toNat ≤ UInt64.size - 1 := Nat.le_pred_of_lt n.toNat_lt_size
  rw [readUInt64, hchars, readNat_toDigits hlimit]
  exact congrArg Except.ok UInt64.ofNat_toNat

/-! ## Numbers with a sign -/

/-- A numeral and the number that it stands for: ASCII digits, at least one, behind a sign or none. -/
inductive Numeral : List Char → Int → Prop where
  | digits {ds : List Char} (hsome : ds ≠ []) (hdigits : ∀ d ∈ ds, d.isDigit = true) : Numeral ds (Nat.ofDigitChars 10 ds 0)
  | plus {ds : List Char} (hsome : ds ≠ []) (hdigits : ∀ d ∈ ds, d.isDigit = true) :
      Numeral ('+' :: ds) (Nat.ofDigitChars 10 ds 0)
  | minus {ds : List Char} (hsome : ds ≠ []) (hdigits : ∀ d ∈ ds, d.isDigit = true) :
      Numeral ('-' :: ds) (-Nat.ofDigitChars 10 ds 0)

/-- Behind a sign the digits are read, up to the limit or, for negative numbers, to one more. -/
theorem readInt_of_sign (limit : Nat) {ds : List Char} (hsome : ds ≠ []) :
    readInt limit ('+' :: ds) = Int.ofNat <$> readDigits limit .tooLarge 0 ds ∧
      readInt limit ('-' :: ds) = (fun n => -Int.ofNat n) <$> readDigits (limit + 1) .tooSmall 0 ds := by
  cases ds with
  | nil => exact absurd rfl hsome
  | cons d ds => exact ⟨rfl, rfl⟩

/-- Digits need no sign before them. -/
theorem readInt_of_digits (limit : Nat) {ds : List Char} (hsome : ds ≠ []) (hdigits : ∀ d ∈ ds, d.isDigit = true) :
    readInt limit ds = Int.ofNat <$> readDigits limit .tooLarge 0 ds := by
  have hplus : '+' ∉ ds := fun h => absurd (hdigits '+' h) (by decide)
  have hminus : '-' ∉ ds := fun h => absurd (hdigits '-' h) (by decide)
  unfold readInt
  split
  · exact absurd rfl hsome
  · exact absurd List.mem_cons_self hplus
  · exact absurd List.mem_cons_self hminus
  · exact absurd List.mem_cons_self hplus
  · exact absurd List.mem_cons_self hminus
  · rfl

/-- A number is made of digits exactly if they are digits and come to it within the limit. -/
theorem map_readDigits_ok_iff {limit : Nat} {overflow : NumberError} {f : Nat → Int} {ds : List Char} {n : Int} :
    f <$> readDigits limit overflow 0 ds = .ok n ↔
      (∀ d ∈ ds, d.isDigit = true) ∧ f (Nat.ofDigitChars 10 ds 0) = n ∧ Nat.ofDigitChars 10 ds 0 ≤ limit := by
  have hread := @readDigits_ok_iff limit overflow ds 0
  cases h : readDigits limit overflow 0 ds with
  | error e =>
    rw [h] at hread
    constructor
    · intro hmap
      cases hmap
    · rintro ⟨hdigits, _, hlimit⟩
      cases (hread (Nat.zero_le _)).2 ⟨hdigits, rfl, hlimit⟩
  | ok m =>
    obtain ⟨hdigits, rfl, hlimit⟩ := (hread (Nat.zero_le _)).1 h
    exact ⟨fun hmap => ⟨hdigits, Except.ok.inj hmap, hlimit⟩, fun hvalue => congrArg Except.ok hvalue.2.1⟩

/-- A number is read from its numerals, if it is within the limits. -/
theorem readInt_ok_iff {limit : Nat} {cs : List Char} {n : Int} :
    readInt limit cs = .ok n ↔ Numeral cs n ∧ -(limit + 1 : Int) ≤ n ∧ n ≤ limit := by
  have hpositive : ∀ m ≤ limit, -(limit + 1 : Int) ≤ Int.ofNat m ∧ Int.ofNat m ≤ limit := by
    simp only [Int.ofNat_eq_natCast]
    omega
  have hnegative : ∀ m ≤ limit + 1, -(limit + 1 : Int) ≤ -Int.ofNat m ∧ -Int.ofNat m ≤ limit := by
    simp only [Int.ofNat_eq_natCast]
    omega
  constructor
  · intro h
    unfold readInt at h
    split at h
    · cases h
    · cases h
    · cases h
    · rename_i ds hsome
      obtain ⟨hdigits, rfl, hlimit⟩ := map_readDigits_ok_iff.1 h
      exact ⟨.plus hsome hdigits, hpositive _ hlimit⟩
    · rename_i ds hsome
      obtain ⟨hdigits, rfl, hlimit⟩ := map_readDigits_ok_iff.1 h
      exact ⟨.minus hsome hdigits, hnegative _ hlimit⟩
    · rename_i hsome _ _ _ _
      obtain ⟨hdigits, rfl, hlimit⟩ := map_readDigits_ok_iff.1 h
      exact ⟨.digits hsome hdigits, hpositive _ hlimit⟩
  · rintro ⟨hnumeral, hleast, hmost⟩
    cases hnumeral with
    | digits hsome hdigits =>
      rw [readInt_of_digits limit hsome hdigits]
      exact map_readDigits_ok_iff.2 ⟨hdigits, rfl, Int.ofNat_le.1 hmost⟩
    | @plus ds hsome hdigits =>
      rw [(readInt_of_sign limit hsome).1]
      exact map_readDigits_ok_iff.2 ⟨hdigits, rfl, Int.ofNat_le.1 hmost⟩
    | @minus ds hsome hdigits =>
      rw [(readInt_of_sign limit hsome).2]
      exact map_readDigits_ok_iff.2 ⟨hdigits, rfl, by omega⟩

/-- A number of 64 bits is read from its numerals. -/
theorem readInt64_ok_iff {cs : List Char} {n : Int64} : readInt64 cs = .ok n ↔ Numeral cs n.toInt := by
  have hleast := n.le_toInt
  have hmost := n.toInt_lt
  have hread := @readInt_ok_iff (UInt64.size / 2 - 1) cs
  have hlimit : ((UInt64.size / 2 - 1 : Nat) : Int) = 9223372036854775807 := by decide
  rw [hlimit] at hread
  rw [readInt64]
  constructor
  · intro h
    cases hm : readInt (UInt64.size / 2 - 1) cs with
    | error e =>
      rw [hm] at h
      cases h
    | ok m =>
      obtain ⟨hnumeral, hm₁, hm₂⟩ := hread.1 hm
      rw [hm] at h
      have hvalue : m.toInt64 = n := Except.ok.inj h
      rw [← hvalue]
      show Numeral cs (Int64.ofInt m).toInt
      rwa [Int64.toInt_ofInt_of_le (by omega) (by omega)]
  · intro h
    rw [hread.2 ⟨h, by omega, by omega⟩]
    exact congrArg Except.ok (Int64.ofInt_toInt n)

/-- The decimal form of a number is a numeral of it. -/
theorem numeral_toString (n : Int) : Numeral (toString n).toList n := by
  have hdigits (m : Nat) : ∀ d ∈ Nat.toDigits 10 m, d.isDigit = true := fun d => Nat.isDigit_of_mem_toDigits (by decide) (by decide)
  cases n with
  | ofNat m =>
    have hchars : (toString (Int.ofNat m)).toList = Nat.toDigits 10 m := Nat.toList_repr
    have hnumeral := Numeral.digits (Nat.toDigits_ne_nil (n := m) (b := 10)) (hdigits m)
    rw [Nat.ofDigitChars_ten_toDigits] at hnumeral
    rwa [hchars]
  | negSucc m =>
    have hchars : (toString (Int.negSucc m)).toList = '-' :: Nat.toDigits 10 (m + 1) := by
      show ("-" ++ (m + 1).repr).toList = _
      rw [String.toList_append, Nat.toList_repr]
      rfl
    have hnumeral := Numeral.minus (Nat.toDigits_ne_nil (n := m + 1) (b := 10)) (hdigits (m + 1))
    rw [Nat.ofDigitChars_ten_toDigits] at hnumeral
    rwa [hchars]

/-! ## Leading zeros -/

/-- The value of a digit is below ten. -/
theorem digit_lt_ten {c : Char} (h : c.isDigit = true) : c.toNat - '0'.toNat < 10 := by
  have hrange := Char.isDigit_iff_toNat.1 h
  have hzero : '0'.toNat = 48 := rfl
  have hnine : '9'.toNat = 57 := rfl
  omega

/-- A digit is the one for its value. -/
theorem digitChar_of_isDigit {c : Char} (h : c.isDigit = true) : (c.toNat - '0'.toNat).digitChar = c := by
  have hrange := Char.isDigit_iff_toNat.1 h
  have hzero : '0'.toNat = 48 := rfl
  refine Char.toNat_inj.1 ?_
  rw [Nat.toNat_digitChar_of_lt_ten (digit_lt_ten h)]
  omega

/-- Further digits are put behind the decimal form. -/
theorem toDigits_ofDigitChars {ds : List Char} (hdigits : ∀ d ∈ ds, d.isDigit = true) {n : Nat} (hn : 0 < n) :
    Nat.toDigits 10 (Nat.ofDigitChars 10 ds n) = Nat.toDigits 10 n ++ ds := by
  induction ds generalizing n with
  | nil => exact (List.append_nil _).symm
  | cons d ds ih =>
    obtain ⟨hd, hds⟩ := List.forall_mem_cons.1 hdigits
    have hgrown : Nat.toDigits 10 (10 * n + (d.toNat - '0'.toNat)) = Nat.toDigits 10 n ++ [d] := by
      rw [← Nat.toDigits_append_toDigits (by decide) hn (digit_lt_ten hd), Nat.toDigits_of_lt_base (digit_lt_ten hd),
        digitChar_of_isDigit hd]
    rw [Nat.ofDigitChars_cons, ih hds (by omega), hgrown, List.append_assoc, List.singleton_append]

/-- Digits are zeros before the decimal form of the number that they stand for. -/
theorem eq_zeros_append_toDigits {ds : List Char} (hsome : ds ≠ []) (hdigits : ∀ d ∈ ds, d.isDigit = true) :
    ∃ zeros, ds = List.replicate zeros '0' ++ Nat.toDigits 10 (Nat.ofDigitChars 10 ds 0) := by
  induction ds with
  | nil => exact absurd rfl hsome
  | cons d ds ih =>
    obtain ⟨hd, hds⟩ := List.forall_mem_cons.1 hdigits
    rw [Nat.ofDigitChars_cons, Nat.mul_zero, Nat.zero_add]
    rcases Nat.eq_zero_or_pos (d.toNat - '0'.toNat) with hzero | hpos
    · have hd : d = '0' := by
        rw [← digitChar_of_isDigit hd, hzero]
        rfl
      rw [hzero, hd]
      by_cases hlast : ds = []
      · subst hlast
        exact ⟨0, rfl⟩
      · obtain ⟨zeros, hzeros⟩ := ih hlast hds
        exact ⟨zeros + 1, congrArg (List.cons '0') hzeros⟩
    · refine ⟨0, ?_⟩
      rw [toDigits_ofDigitChars hds hpos, Nat.toDigits_of_lt_base (digit_lt_ten hd), digitChar_of_isDigit hd]
      rfl

/-- Zeros before digits do not count. -/
theorem ofDigitChars_zeros (zeros : Nat) (ds : List Char) :
    Nat.ofDigitChars 10 (List.replicate zeros '0' ++ ds) 0 = Nat.ofDigitChars 10 ds 0 := by
  induction zeros with
  | zero => rfl
  | succ zeros ih => exact ih

/-- The decimal form of a number, behind any zeros, and behind a plus sign or none. -/
inductive Spelling (n : Nat) : List Char → Prop where
  | unsigned (zeros : Nat) : Spelling n (List.replicate zeros '0' ++ Nat.toDigits 10 n)
  | plus (zeros : Nat) : Spelling n ('+' :: (List.replicate zeros '0' ++ Nat.toDigits 10 n))

/-- Zeros before the digits of a number do not change what they come to. -/
theorem zeros_append_toDigits (zeros n : Nat) :
    List.replicate zeros '0' ++ Nat.toDigits 10 n ≠ [] ∧ (∀ d ∈ List.replicate zeros '0' ++ Nat.toDigits 10 n, d.isDigit = true) ∧
      Nat.ofDigitChars 10 (List.replicate zeros '0' ++ Nat.toDigits 10 n) 0 = n := by
  refine ⟨List.append_ne_nil_of_right_ne_nil _ Nat.toDigits_ne_nil, fun d hd => ?_, ?_⟩
  · rcases List.mem_append.1 hd with hd | hd
    · rw [List.eq_of_mem_replicate hd]
      decide
    · exact Nat.isDigit_of_mem_toDigits (by decide) (by decide) hd
  · rw [ofDigitChars_zeros, Nat.ofDigitChars_ten_toDigits]

/-- A number that takes no minus sign is read from its spellings. -/
theorem readNat_ok_iff {limit n : Nat} {cs : List Char} : readNat limit cs = .ok n ↔ Spelling n cs ∧ n ≤ limit := by
  constructor
  · intro h
    have hspelt : ∀ ds, ds ≠ [] → readDigits limit .tooLarge 0 ds = .ok n →
        (∃ zeros, ds = List.replicate zeros '0' ++ Nat.toDigits 10 n) ∧ n ≤ limit := by
      intro ds hsome hread
      obtain ⟨hdigits, rfl, hlimit⟩ := (readDigits_ok_iff (Nat.zero_le _)).1 hread
      exact ⟨eq_zeros_append_toDigits hsome hdigits, hlimit⟩
    unfold readNat at h
    split at h
    · cases h
    · cases h
    · rename_i hsome
      obtain ⟨⟨zeros, rfl⟩, hlimit⟩ := hspelt _ (fun hnil => hsome hnil) h
      exact ⟨.plus zeros, hlimit⟩
    · rename_i hsome _ _
      obtain ⟨⟨zeros, rfl⟩, hlimit⟩ := hspelt _ (fun hnil => hsome hnil) h
      exact ⟨.unsigned zeros, hlimit⟩
  · rintro ⟨hspelt, hlimit⟩
    cases hspelt with
    | unsigned zeros =>
      obtain ⟨hsome, hdigits, hvalue⟩ := zeros_append_toDigits zeros n
      rw [readNat_of_digits hsome hdigits (Nat.le_trans (Nat.le_of_eq hvalue) hlimit), hvalue]
    | plus zeros =>
      obtain ⟨hsome, hdigits, hvalue⟩ := zeros_append_toDigits zeros n
      rw [readNat.eq_3 _ _ hsome]
      exact (readDigits_ok_iff (Nat.zero_le _)).2 ⟨hdigits, hvalue, hlimit⟩

/-- A number of 64 bits is read from its spellings. -/
theorem readUInt64_ok_iff {s : String} {n : UInt64} : readUInt64 s = .ok n ↔ Spelling n.toNat s.toList := by
  have hlimit (m : UInt64) : m.toNat ≤ UInt64.size - 1 := Nat.le_pred_of_lt m.toNat_lt_size
  have hread (m : Nat) := @readNat_ok_iff (UInt64.size - 1) m s.toList
  rw [readUInt64]
  constructor
  · intro h
    cases hm : readNat (UInt64.size - 1) s.toList with
    | error e =>
      rw [hm] at h
      cases h
    | ok m =>
      obtain ⟨hspelt, hm'⟩ := (hread m).1 hm
      rw [hm] at h
      have hvalue : m.toUInt64 = n := Except.ok.inj h
      have hm' : m < UInt64.size := Nat.lt_of_le_pred (by decide) hm'
      rwa [← hvalue, UInt64.toNat_ofNat_of_lt' hm']
  · intro h
    rw [(hread _).2 ⟨h, hlimit n⟩]
    exact congrArg Except.ok UInt64.ofNat_toNat

/-- There is no plus sign, and no zero before other digits. -/
def Undecorated (cs : List Char) : Prop := cs.head? ≠ some '+' ∧ (cs.head? = some '0' → cs = ['0'])

/-- Of all spellings the decimal form is the undecorated one. -/
theorem Spelling.eq_toDigits_iff {n : Nat} {cs : List Char} (h : Spelling n cs) : cs = Nat.toDigits 10 n ↔ Undecorated cs := by
  constructor
  · rintro rfl
    have hdigits : ∀ d ∈ Nat.toDigits 10 n, d.isDigit = true := fun d => Nat.isDigit_of_mem_toDigits (by decide) (by decide)
    have hvalue : Nat.ofDigitChars 10 (Nat.toDigits 10 n) 0 = n := Nat.ofDigitChars_ten_toDigits
    cases hform : Nat.toDigits 10 n with
    | nil => exact absurd hform Nat.toDigits_ne_nil
    | cons d ds =>
      rw [hform] at hdigits hvalue
      obtain ⟨hd, hds⟩ := List.forall_mem_cons.1 hdigits
      refine ⟨fun hplus => ?_, fun hzero => ?_⟩
      · rw [Option.some.inj hplus] at hd
        exact absurd hd (by decide)
      · cases Option.some.inj hzero
        by_cases hlast : ds = []
        · rw [hlast]
        · -- digits behind a zero stand for the number too, so they are no shorter than its decimal form
          obtain ⟨zeros, hzeros⟩ := eq_zeros_append_toDigits hlast hds
          have hsame : Nat.ofDigitChars 10 ds 0 = n := hvalue
          rw [hsame, hform] at hzeros
          have hlength := congrArg List.length hzeros
          simp at hlength
          omega
  · rintro ⟨hsign, hzero⟩
    cases h with
    | unsigned zeros =>
      cases zeros with
      | zero => rfl
      | succ zeros =>
        have hnil : List.replicate zeros '0' ++ Nat.toDigits 10 n = [] := (List.cons.inj (hzero rfl)).2
        exact absurd hnil (zeros_append_toDigits zeros n).1
    | plus zeros => exact absurd rfl hsign

end Text

/-- The texts that an identifier is read from. -/
def VolumeId.SpelledBy (id : VolumeId) (text : String) : Prop := Text.Spelling id.val.toNat text.toList

/-- An identifier of a volume is read exactly from the texts that spell it. -/
theorem VolumeId.ofString_ok_iff {text : String} {id : VolumeId} : ofString text = .ok id ↔ id.SpelledBy text := by
  have hread (n : UInt64) := @Text.readUInt64_ok_iff text n
  rw [ofString, SpelledBy, ← hread]
  cases Text.readUInt64 text with
  | error e => exact iff_of_false (by rintro ⟨⟩) (by rintro ⟨⟩)
  | ok n =>
    show Except.ok (VolumeId.mk n) = Except.ok id ↔ _
    rw [Except.ok.injEq, Except.ok.injEq, VolumeId.mk.injEq]

/-- An identifier is spelled by its decimal form, and by no other text without a plus sign and needless zeros. -/
theorem VolumeId.SpelledBy.eq_toString_iff {id : VolumeId} {text : String} (h : id.SpelledBy text) :
    text = toString id ↔ Text.Undecorated text.toList := by
  have hchars : (toString id).toList = Nat.toDigits 10 id.val.toNat := Nat.toList_repr
  rw [← h.eq_toDigits_iff, ← hchars, String.toList_inj]

/-- An identifier of a volume is read back from its decimal form. -/
theorem VolumeId.ofString_toString (id : VolumeId) : ofString (toString id) = .ok id := by
  show VolumeId.mk <$> Text.readUInt64 (toString id.val) = .ok id
  rw [Text.readUInt64_toString]
  rfl

/-- An identifier of a server is read back from its decimal form. -/
theorem ServerId.ofString_toString (id : ServerId) : ofString (toString id) = .ok id := by
  show ServerId.mk <$> Text.readUInt64 (toString id.val) = .ok id
  rw [Text.readUInt64_toString]
  rfl

end VolumeDriver
