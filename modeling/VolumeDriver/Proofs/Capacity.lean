import Mathlib.Data.UInt
import VolumeDriver.Capacity

/-!
# What the bounds of a range mean

The bounds are counts of GiB, the range is of bytes: here the two are compared as numbers. The minimum is the least count that
the provider makes and that makes up the required bytes; the maximum is what the limit has room for, which of a limit below one
GiB is nothing, as of no limit.
-/

namespace VolumeDriver

/-- A GiB, as a number without a bound. -/
theorem toNat_gib : gib.toNat = 2 ^ 30 := rfl

namespace CapacityRange

/-- The bounds that a range stands for leave room for the least size. -/
theorem ordered_of_sizeBounds {range : Option CapacityRange} {least most : UInt64}
    (h : sizeBounds range = some (least, most)) : most = 0 ∨ least ≤ most := by
  unfold sizeBounds at h
  split at h
  · cases h
    exact Or.inl rfl
  · simp only [Option.bind_eq_bind, Option.bind_eq_some_iff, Option.ite_none_left_eq_some, Option.some.injEq,
      Prod.mk.injEq] at h
    obtain ⟨required, _, limit, _, hbad, rfl, rfl⟩ := h
    by_cases hzero : limit / gib = 0
    · exact Or.inl hzero
    · exact Or.inr (UInt64.not_lt.1 fun hlt => hbad ⟨hzero, hlt⟩)

/-! ## The bounds as numbers -/

/-- What the bounds of a range are. -/
structure Bounds (range : CapacityRange) (least most : UInt64) : Prop where
  smallest_le : smallestSize.toNat ≤ least.toNat
  required_le : range.requiredBytes.toInt ≤ least.toNat * gib.toNat
  least_le : ∀ n : Nat, smallestSize.toNat ≤ n → range.requiredBytes.toInt ≤ n * gib.toNat → least.toNat ≤ n
  most_eq : (most.toNat : Int) = range.limitBytes.toInt / gib.toNat
  ordered : most = 0 ∨ least ≤ most

/-- Bytes that are accepted are counted as they were asked for. -/
theorem bytes?_eq_some {n : Int64} {u : UInt64} (h : bytes? n = some u) : (u.toNat : Int) = n.toInt := by
  unfold bytes? at h
  split at h
  case isTrue => nomatch h
  case isFalse hn =>
    cases h
    have hle : 0 ≤ n := Int64.not_lt.1 hn
    rw [Int64.toNat_toUInt64_of_le hle]
    exact Int.toNat_of_nonneg (Int64.le_iff_toInt_le.1 hle)

/-- The minimum of required bytes, as `sizeBounds` computes it, in numbers without a bound: adding before the division does not
wrap, since the bytes were a signed word. -/
theorem toNat_least {required : UInt64} (h : required.toNat < 2 ^ 63) :
    (if required = 0 then defaultSize else max ((required + gib - 1) / gib) smallestSize).toNat =
      max ((required.toNat + gib.toNat - 1) / gib.toNat) smallestSize.toNat := by
  have hgib := toNat_gib
  split
  case isTrue hzero =>
    subst hzero
    rfl
  case isFalse =>
    have hsum : (required + gib - 1).toNat = required.toNat + gib.toNat - 1 := by
      rw [UInt64.toNat_sub, UInt64.toNat_add, hgib]
      simp only [UInt64.toNat_one]
      omega
    rw [UInt64.toNat_max, UInt64.toNat_div, hsum]

/-- The bounds of a range that is accepted are the bounds of what it asks for. -/
theorem bounds_of_sizeBounds {range : CapacityRange} {least most : UInt64} (h : sizeBounds (some range) = some (least, most)) :
    range.Bounds least most := by
  have hordered := ordered_of_sizeBounds h
  simp only [sizeBounds, Option.bind_eq_bind, Option.bind_eq_some_iff, Option.ite_none_left_eq_some, Option.some.injEq,
    Prod.mk.injEq] at h
  obtain ⟨required, hrequired, limit, hlimit, _, rfl, rfl⟩ := h
  have hrange := bytes?_eq_some hrequired
  have hword : required.toNat < 2 ^ 63 := by
    have := range.requiredBytes.toInt_lt
    omega
  have hleast := toNat_least hword
  constructor
  case smallest_le =>
    rw [hleast]
    omega
  case required_le =>
    rw [hleast, ← hrange, toNat_gib]
    omega
  case least_le =>
    intro n hn hfits
    rw [← hrange, toNat_gib] at hfits
    rw [hleast, toNat_gib]
    omega
  case most_eq =>
    rw [UInt64.toNat_div, ← bytes?_eq_some hlimit]
    rfl
  case ordered => exact hordered

/-- What so many GiB within the bounds are in bytes: enough, and, if there is a limit, within it exactly if the limit has room
for one GiB. -/
theorem Bounds.bytes_within {range : CapacityRange} {least most : UInt64} (h : range.Bounds least most) {n : Nat}
    (hleast : least.toNat ≤ n) (hmost : most = 0 ∨ n ≤ most.toNat) :
    range.requiredBytes.toInt ≤ n * gib.toNat ∧
      (0 < range.limitBytes.toInt →
        ((n : Int) * gib.toNat ≤ range.limitBytes.toInt ↔ (gib.toNat : Int) ≤ range.limitBytes.toInt)) := by
  have hsmallest : smallestSize.toNat = 10 := rfl
  have hfew := h.smallest_le
  have hrequired := h.required_le
  have hlimit := h.most_eq
  rw [toNat_gib] at hrequired hlimit ⊢
  refine ⟨by omega, fun hpos => ?_⟩
  constructor
  · intro hle
    omega
  · intro hroom
    have hbound : n ≤ most.toNat := by
      rcases hmost with rfl | hmost
      · simp only [UInt64.toNat_zero] at hlimit
        omega
      · exact hmost
    omega

/-! ## Ranges that are not negative -/

/-- Bytes that are not negative are accepted. -/
theorem bytes?_of_nonneg {n : Int64} (h : 0 ≤ n.toInt) : bytes? n = some n.toUInt64 := by
  have hle : 0 ≤ n := Int64.le_iff_toInt_le.2 h
  rw [bytes?, if_neg (Int64.not_lt.2 hle)]

/-- What is made of a range that is not negative: the bytes are counted in words and nothing that is computed of them wraps; the
bounds are the closest whole GiB, and only a range that has no size has no bounds. -/
structure Exact (range : CapacityRange) : Prop where
  required_eq : bytes? range.requiredBytes = some range.requiredBytes.toUInt64 ∧
    (range.requiredBytes.toUInt64.toNat : Int) = range.requiredBytes.toInt
  limit_eq : bytes? range.limitBytes = some range.limitBytes.toUInt64 ∧
    (range.limitBytes.toUInt64.toNat : Int) = range.limitBytes.toInt
  add_eq : (range.requiredBytes.toUInt64 + gib).toNat = range.requiredBytes.toUInt64.toNat + gib.toNat
  sub_eq : (range.requiredBytes.toUInt64 + gib - 1).toNat + 1 = (range.requiredBytes.toUInt64 + gib).toNat
  isLeast : ∀ least most, sizeBounds (some range) = some (least, most) →
    IsLeast {n : Nat | 10 ≤ n ∧ range.requiredBytes.toInt ≤ n * 2 ^ 30} least.toNat
  isGreatest : ∀ least most, sizeBounds (some range) = some (least, most) →
    IsGreatest {n : Nat | (n * 2 ^ 30 : Int) ≤ range.limitBytes.toInt} most.toNat
  rejected : sizeBounds (some range) = none →
    ∀ n : Nat, 10 ≤ n → range.requiredBytes.toInt ≤ n * 2 ^ 30 → range.limitBytes.toInt < n * 2 ^ 30

/-- The lower bound is the least size that has the required bytes and that the provider makes. -/
theorem Bounds.isLeast {range : CapacityRange} {least most : UInt64} (h : range.Bounds least most) :
    IsLeast {n : Nat | 10 ≤ n ∧ range.requiredBytes.toInt ≤ n * 2 ^ 30} least.toNat := by
  have hsmallest : smallestSize.toNat = 10 := rfl
  have hgib : (gib.toNat : Int) = 2 ^ 30 := rfl
  have hcovers := h.required_le
  rw [hgib] at hcovers
  refine ⟨⟨h.smallest_le, hcovers⟩, ?_⟩
  rintro n ⟨hn, hfits⟩
  exact h.least_le n hn (hgib ▸ hfits)

/-- The maximum is the largest count that the limit has room for, also where that is zero and no bound. -/
theorem Bounds.isGreatest {range : CapacityRange} {least most : UInt64} (h : range.Bounds least most) :
    IsGreatest {n : Nat | (n * 2 ^ 30 : Int) ≤ range.limitBytes.toInt} most.toNat := by
  have hquotient := h.most_eq
  rw [toNat_gib] at hquotient
  refine ⟨?_, fun n hn => ?_⟩
  · show (most.toNat * 2 ^ 30 : Int) ≤ range.limitBytes.toInt
    omega
  · have hroom : (n * 2 ^ 30 : Int) ≤ range.limitBytes.toInt := hn
    omega

/-- A range that is not negative is met exactly. -/
theorem exact_of_nonneg {range : CapacityRange} (hrequired : 0 ≤ range.requiredBytes.toInt)
    (hlimit : 0 ≤ range.limitBytes.toInt) : range.Exact := by
  have hrequiredWord := bytes?_eq_some (bytes?_of_nonneg hrequired)
  have hlimitWord := bytes?_eq_some (bytes?_of_nonneg hlimit)
  have hword : range.requiredBytes.toUInt64.toNat < 2 ^ 63 := by
    have := range.requiredBytes.toInt_lt
    omega
  have hgib := toNat_gib
  have hadd : (range.requiredBytes.toUInt64 + gib).toNat = range.requiredBytes.toUInt64.toNat + gib.toNat := by
    rw [UInt64.toNat_add]
    omega
  constructor
  case required_eq => exact ⟨bytes?_of_nonneg hrequired, hrequiredWord⟩
  case limit_eq => exact ⟨bytes?_of_nonneg hlimit, hlimitWord⟩
  case add_eq => exact hadd
  case sub_eq =>
    rw [UInt64.toNat_sub, hadd, hgib]
    simp only [UInt64.toNat_one]
    omega
  case isLeast => exact fun least most hbounds => (bounds_of_sizeBounds hbounds).isLeast
  case isGreatest => exact fun least most hbounds => (bounds_of_sizeBounds hbounds).isGreatest
  case rejected =>
    intro hnone n hn hfits
    have hleast := toNat_least hword
    rw [hgib] at hleast
    have hsmallest : smallestSize.toNat = 10 := rfl
    have hbad : range.limitBytes.toUInt64 / gib <
        (if range.requiredBytes.toUInt64 = 0 then defaultSize
          else max ((range.requiredBytes.toUInt64 + gib - 1) / gib) smallestSize) := by
      simp only [sizeBounds, bytes?_of_nonneg hrequired, bytes?_of_nonneg hlimit, Option.bind_eq_bind, Option.bind_some,
        ite_eq_left_iff, reduceCtorEq, imp_false, not_not] at hnone
      exact hnone.2
    rw [UInt64.lt_iff_toNat_lt, UInt64.toNat_div, hgib, hleast] at hbad
    omega

/-! ## The sizes that ranges ask for -/

/-- The least size of the range, if it has bounds, is less than so many GiB. -/
def AsksBelow (bound : Nat) (range : Option CapacityRange) : Prop :=
  ∀ least most, sizeBounds range = some (least, most) → least.toNat < bound

/-- A range that requires no more than so many GiB asks for a size of no more. -/
theorem asksBelow_of_required {n : Nat} (hn : smallestSize.toNat ≤ n) {range : Option CapacityRange}
    (h : ∀ asked, range = some asked → asked.requiredBytes.toInt ≤ n * gib.toNat) : AsksBelow (n + 1) range := by
  intro least most hbounds
  cases range with
  | none =>
    cases hbounds
    exact Nat.lt_succ_of_le hn
  | some asked => exact Nat.lt_succ_of_le ((bounds_of_sizeBounds hbounds).least_le n hn (h asked rfl))

/-- Of a signed word of bytes no more GiB are asked for than such a word has room for, rounded up. -/
theorem asksBelow_signed (range : Option CapacityRange) : AsksBelow (2 ^ 33 + 1) range := by
  refine asksBelow_of_required (by decide) fun asked _ => ?_
  rw [toNat_gib]
  have := asked.requiredBytes.toInt_lt
  omega

/-- No range asks for more bytes than can be counted in a word. -/
theorem asksBelow_word (range : Option CapacityRange) : AsksBelow (2 ^ 34) range := by
  intro least most hbounds
  have := asksBelow_signed range least most hbounds
  omega

/-- No range asks for less than the smallest volume, nor does a request without one. -/
theorem smallest_le_of_sizeBounds {range : Option CapacityRange} {least most : UInt64}
    (h : sizeBounds range = some (least, most)) : smallestSize.toNat ≤ least.toNat := by
  cases range with
  | none =>
    cases h
    exact Nat.le_refl _
  | some range => exact (bounds_of_sizeBounds h).smallest_le

end CapacityRange

end VolumeDriver
