import VolumeDriver.Proofs.Net.Reading

/-!
# How socket addresses are written

The groups of an IPv6 address are looked through once, with the longest run of zeros so far (`Ipv6.Longest`) and the run that ends
where one is (`Ipv6.Ending`), so what is left out is the longest run, and the first of several (`Ipv6.printed_iff`). The written form of
an address is one of the texts that the address is read from (`SocketAddress.parse_render`).
-/

namespace VolumeDriver.Net

namespace Ipv6

/-! ## Runs of zeros -/

variable {gs before : List UInt16} {g : UInt16} {start length : Nat} {best current : ZeroRun}

/-- The groups from a place on are zeros, as many as the length says. -/
structure ZerosAt (gs : List UInt16) (start length : Nat) : Prop where
  within : start + length ≤ gs.length
  zero : ∀ i, start ≤ i → i < start + length → gs[i]? = some 0

/-- No zeros at all are at every place. -/
theorem zerosAt_empty (h : start ≤ gs.length) : ZerosAt gs start 0 := ⟨h, fun i _ _ => by omega⟩

/-- Zeros are where they were when a group is put behind all. -/
theorem ZerosAt.snoc (h : ZerosAt before start length) (g : UInt16) : ZerosAt (before ++ [g]) start length := by
  have hwithin := h.within
  refine ⟨?_, fun i hstart hend => ?_⟩
  · rw [List.length_append, List.length_singleton]
    omega
  · rw [List.getElem?_append_left (by omega)]
    exact h.zero i hstart hend

/-- A run grows by a zero behind it. -/
theorem ZerosAt.grow (h : ZerosAt before start length) (hend : start + length = before.length) :
    ZerosAt (before ++ [0]) start (length + 1) := by
  refine ⟨?_, fun i hstart hlt => ?_⟩
  · rw [List.length_append, List.length_singleton]
    omega
  · by_cases hi : i < before.length
    · rw [List.getElem?_append_left hi]
      exact h.zero i hstart (by omega)
    · have hlast : i = before.length := by omega
      simp [hlast]

/-- A run among the groups and one more is empty, or ends before that one, or is a run that grew by it. -/
theorem ZerosAt.of_snoc (h : ZerosAt (before ++ [g]) start length) :
    length = 0 ∨ ZerosAt before start length ∨
      g = 0 ∧ ∃ shorter, length = shorter + 1 ∧ start + shorter = before.length ∧ ZerosAt before start shorter := by
  have hwithin := h.within
  rw [List.length_append, List.length_singleton] at hwithin
  cases length with
  | zero => exact Or.inl rfl
  | succ length =>
    refine Or.inr ?_
    by_cases hend : start + (length + 1) ≤ before.length
    · refine Or.inl ⟨hend, fun i hstart hlt => ?_⟩
      rw [← h.zero i hstart hlt, List.getElem?_append_left (by omega)]
    · refine Or.inr ⟨?_, length, rfl, by omega, by omega, fun i hstart hlt => ?_⟩
      · simpa using h.zero before.length (by omega) (by omega)
      · rw [← h.zero i hstart (by omega), List.getElem?_append_left (by omega)]

/-- The run is the longest among the groups, and the first of several. -/
structure Longest (gs : List UInt16) (best : ZeroRun) : Prop where
  zeros : ZerosAt gs best.start best.length
  longest : ∀ start length, ZerosAt gs start length → length ≤ best.length
  first : ∀ start, best.length ≠ 0 → ZerosAt gs start best.length → best.start ≤ start

/-- The run is the longest that ends behind the last group. -/
structure Ending (gs : List UInt16) (current : ZeroRun) : Prop where
  zeros : current.length ≠ 0 → ZerosAt gs current.start current.length ∧ current.start + current.length = gs.length
  longest : ∀ start length, ZerosAt gs start length → start + length = gs.length → length ≤ current.length

/-- The run that ends behind a zero. -/
def ZeroRun.grown (current : ZeroRun) (index : Nat) : ZeroRun :=
  if current.length = 0 then ⟨index, 1⟩ else ⟨current.start, current.length + 1⟩

/-- A run is longer by one behind a zero. -/
theorem ZeroRun.length_grown (current : ZeroRun) (index : Nat) : (current.grown index).length = current.length + 1 := by
  rw [grown]
  split
  · rename_i h
    rw [h]
  · rfl

/-- Behind a zero, the longest run that ends there is the one before, grown. -/
theorem Ending.grown (h : Ending before current) : Ending (before ++ [0]) (current.grown before.length) := by
  refine ⟨fun _ => ?_, fun start length hzeros hend => ?_⟩
  · rw [ZeroRun.grown]
    split
    · exact ⟨(zerosAt_empty (Nat.le_refl _)).grow rfl, by simp⟩
    · rename_i hlength
      obtain ⟨hzeros, hend⟩ := h.zeros hlength
      refine ⟨hzeros.grow hend, ?_⟩
      rw [List.length_append, List.length_singleton, ← hend]
      rfl
  · rw [List.length_append, List.length_singleton] at hend
    rw [ZeroRun.length_grown]
    rcases hzeros.of_snoc with rfl | hbefore | ⟨_, shorter, rfl, hshorter, hzeros⟩
    · exact Nat.zero_le _
    · have := hbefore.within
      omega
    · exact Nat.succ_le_succ (h.longest start shorter hzeros hshorter)

/-- Behind a group that is not zero, no run ends. -/
theorem Ending.broken (before : List UInt16) (hg : g ≠ 0) : Ending (before ++ [g]) {} := by
  refine ⟨fun h => absurd rfl h, fun start length hzeros hend => ?_⟩
  rw [List.length_append, List.length_singleton] at hend
  rcases hzeros.of_snoc with rfl | hbefore | ⟨hzero, _⟩
  · exact Nat.le_refl _
  · have := hbefore.within
    omega
  · exact absurd hzero hg

/-- Behind a zero, the longest run is the one before, or the one that ends there, if that is longer. -/
theorem Longest.snoc_zero (h : Longest before best) (hending : Ending before current) :
    Longest (before ++ [0])
      (if best.length < (current.grown before.length).length then current.grown before.length else best) := by
  have hgrown := hending.grown
  have hlength := current.length_grown before.length
  obtain ⟨hzeros, hend⟩ := hgrown.zeros (by omega)
  rw [List.length_append, List.length_singleton] at hend
  split
  · rename_i hlonger
    refine ⟨hzeros, fun start length hrun => ?_, fun start _ hrun => ?_⟩
    · rcases hrun.of_snoc with rfl | hbefore | ⟨_, shorter, rfl, hshorter, hbefore⟩
      · exact Nat.zero_le _
      · exact Nat.le_of_lt (Nat.lt_of_le_of_lt (h.longest start length hbefore) hlonger)
      · rw [hlength]
        exact Nat.succ_le_succ (hending.longest start shorter hbefore hshorter)
    · rcases hrun.of_snoc with hzero | hbefore | ⟨_, shorter, hsame, hshorter, _⟩
      · omega
      · have := h.longest start _ hbefore
        omega
      · omega
  · rename_i hshort
    refine ⟨h.zeros.snoc 0, fun start length hrun => ?_, fun start hsome hrun => ?_⟩
    · rcases hrun.of_snoc with rfl | hbefore | ⟨_, shorter, rfl, hshorter, hbefore⟩
      · exact Nat.zero_le _
      · exact h.longest start length hbefore
      · have := hending.longest start shorter hbefore hshorter
        omega
    · rcases hrun.of_snoc with hzero | hbefore | ⟨_, shorter, hsame, hshorter, _⟩
      · exact absurd hzero hsome
      · exact h.first start hsome hbefore
      · have := h.zeros.within
        omega

/-- Behind a group that is not zero, the longest run is the one before. -/
theorem Longest.snoc_other (h : Longest before best) (hg : g ≠ 0) : Longest (before ++ [g]) best := by
  refine ⟨h.zeros.snoc g, fun start length hrun => ?_, fun start hsome hrun => ?_⟩
  · rcases hrun.of_snoc with rfl | hbefore | ⟨hzero, _⟩
    · exact Nat.zero_le _
    · exact h.longest start length hbefore
    · exact absurd hzero hg
  · rcases hrun.of_snoc with hzero | hbefore | ⟨hzero, _⟩
    · exact absurd hzero hsome
    · exact h.first start hsome hbefore
    · exact absurd hzero hg

/-- The groups are looked through from the longest run so far and the one that ends there. -/
theorem longest_longestRun_from (h : Longest before best) (hending : Ending before current) (gs : List UInt16) :
    Longest (before ++ gs) (longestRun best current before.length gs) := by
  induction gs generalizing before best current with
  | nil => rwa [List.append_nil]
  | cons g gs ih =>
    have hindex : before.length + 1 = (before ++ [g]).length := by simp
    rw [longestRun, hindex, List.append_cons]
    split
    · rename_i hg
      subst hg
      exact ih (h.snoc_zero hending) hending.grown
    · rename_i hg
      exact ih (h.snoc_other hg) (.broken before hg)

/-- The run that is looked for is the longest and first one. -/
theorem longest_longestRun (gs : List UInt16) : Longest gs (longestRun {} {} 0 gs) := by
  have hnone : ∀ start length, ZerosAt [] start length → length ≤ 0 := fun start length h => Nat.le_trans (Nat.le_add_left _ _) h.within
  exact longest_longestRun_from ⟨zerosAt_empty (Nat.le_refl _), hnone, fun _ h => absurd rfl h⟩
    ⟨fun h => absurd rfl h, fun start length h _ => hnone start length h⟩ gs

/-- There is one longest run. -/
theorem Longest.unique {best' : ZeroRun} (h : Longest gs best) (h' : Longest gs best') (hsome : best.length ≠ 0) : best = best' := by
  have hlength : best.length = best'.length := Nat.le_antisymm (h'.longest _ _ h.zeros) (h.longest _ _ h'.zeros)
  have hfirst := h.first best'.start hsome (hlength ▸ h'.zeros)
  have hfirst' := h'.first best.start (hlength ▸ hsome) (hlength ▸ h.zeros)
  obtain ⟨start, length⟩ := best
  obtain ⟨start', length'⟩ := best'
  have hstart : start = start' := Nat.le_antisymm hfirst hfirst'
  have hlength : length = length' := hlength
  rw [hstart, hlength]

/-- Where there are zeros, there are fewer too. -/
theorem ZerosAt.shorter {few : Nat} (h : ZerosAt gs start length) (hfew : few ≤ length) : ZerosAt gs start few := by
  have hwithin := h.within
  exact ⟨by omega, fun i hstart hend => h.zero i hstart (by omega)⟩

/-- The groups are those before the zeros, the zeros, and those behind them. -/
theorem ZerosAt.split (h : ZerosAt gs start length) :
    gs = gs.take start ++ List.replicate length 0 ++ gs.drop (start + length) := by
  have hzeros : (gs.drop start).take length = List.replicate length 0 := by
    refine List.ext_getElem? fun i => ?_
    by_cases hi : i < length
    · rw [List.getElem?_take_of_lt hi, List.getElem?_drop, h.zero _ (by omega) (by omega), List.getElem?_replicate_of_lt hi]
    · rw [List.getElem?_take_eq_none (by omega), List.getElem?_eq_none (by simpa using hi)]
  rw [← hzeros, List.append_assoc, ← List.drop_drop, List.take_append_drop, List.take_append_drop]

/-! ## The written form -/

/-- The written form of an address: a mapped IPv4 address dotted, and of others the longest run of zeros left out, if there are two in a
row. -/
inductive Printed (ip : Ipv6) : String → Prop
  | mapped (v4 : Ipv4) (groups : ip.groups = [0, 0, 0, 0, 0, 0xFFFF] ++ v4.groups) : Printed ip ("::ffff:" ++ v4.render)
  | full (unmapped : ip.isMapped = false) (scattered : ∀ start, ¬ ZerosAt ip.groups start 2) : Printed ip (renderGroups ip.groups)
  | short (unmapped : ip.isMapped = false) {run : ZeroRun} (longest : Longest ip.groups run) (several : 2 ≤ run.length) :
    Printed ip (renderGroups (ip.groups.take run.start) ++ "::" ++ renderGroups (ip.groups.drop (run.start + run.length)))

/-- The octets of a group. -/
theorem octet_high (a b : UInt8) : ((a.toUInt16 * 256 + b.toUInt16) / 256).toUInt8 = a := by
  have ha : a.toNat < 256 := a.toNat_lt
  have hb : b.toNat < 256 := b.toNat_lt
  refine UInt8.toNat_inj.1 ?_
  rw [UInt16.toNat_toUInt8, UInt16.toNat_div, UInt16.toNat_add, UInt16.toNat_mul, UInt8.toNat_toUInt16, UInt8.toNat_toUInt16]
  show ((a.toNat * 256 % 65536 + b.toNat) % 65536 / 256) % 256 = a.toNat
  omega

/-- The low octet of a group is the second of its two. -/
theorem octet_low (a b : UInt8) : (a.toUInt16 * 256 + b.toUInt16).toUInt8 = b := by
  have ha : a.toNat < 256 := a.toNat_lt
  have hb : b.toNat < 256 := b.toNat_lt
  refine UInt8.toNat_inj.1 ?_
  rw [UInt16.toNat_toUInt8, UInt16.toNat_add, UInt16.toNat_mul, UInt8.toNat_toUInt16, UInt8.toNat_toUInt16]
  show ((a.toNat * 256 % 65536 + b.toNat) % 65536) % 256 = b.toNat
  omega

/-- A group is its two octets. -/
theorem group_of_octets (g : UInt16) : (g / 256).toUInt8.toUInt16 * 256 + g.toUInt8.toUInt16 = g := by
  have hg : g.toNat < 65536 := g.toNat_lt
  refine UInt16.toNat_inj.1 ?_
  rw [UInt16.toNat_add, UInt16.toNat_mul, UInt8.toNat_toUInt16, UInt8.toNat_toUInt16, UInt16.toNat_toUInt8, UInt16.toNat_toUInt8,
    UInt16.toNat_div]
  show ((g.toNat / 256 % 256) * 256 % 65536 + g.toNat % 256) % 65536 = g.toNat
  omega

/-- Two groups are those of an IPv4 address exactly if it is the one in their place. -/
theorem groups_eq_iff {v4 : Ipv4} {g h : UInt16} : v4.groups = [g, h] ↔ v4 = Ipv4.ofGroups g h := by
  constructor
  · intro hgroups
    obtain ⟨rfl, rfl⟩ : v4.a.toUInt16 * 256 + v4.b.toUInt16 = g ∧ v4.c.toUInt16 * 256 + v4.d.toUInt16 = h := by
      simpa [Ipv4.groups] using hgroups
    rw [Ipv4.ofGroups, octet_high, octet_low, octet_high, octet_low]
  · rintro rfl
    rw [Ipv4.groups, Ipv4.ofGroups, group_of_octets, group_of_octets]

/-- An address that is not mapped is written around its longest run of zeros. -/
theorem render_of_unmapped {ip : Ipv6} (h : ip.isMapped = false) :
    ip.render =
      let run := longestRun {} {} 0 ip.groups
      if 1 < run.length then renderGroups (ip.groups.take run.start) ++ "::" ++ renderGroups (ip.groups.drop (run.start + run.length))
      else renderGroups ip.groups := by
  rw [render]
  split
  · rename_i g k hgroups
    simp [isMapped, hgroups] at h
  · rfl

/-- A mapped address is written with the IPv4 address in it. -/
theorem render_of_mapped {ip : Ipv6} {g h : UInt16} (hgroups : ip.groups = [0, 0, 0, 0, 0, 0xFFFF, g, h]) :
    ip.render = "::ffff:" ++ (Ipv4.ofGroups g h).render := by
  rw [render, hgroups]
  rfl

/-- A mapped address has two groups of its own, behind those of the prefix. -/
theorem exists_groups_of_mapped {ip : Ipv6} (h : ip.isMapped = true) :
    ∃ g k, ip.groups = [0, 0, 0, 0, 0, 0xFFFF, g, k] := by
  have hbehind : (ip.groups.drop 6).length = 2 := by rw [List.length_drop, ip.length_groups]
  obtain ⟨g, k, hgroups⟩ := List.length_eq_two.1 hbehind
  have hmapped : ip.groups.take 6 = [0, 0, 0, 0, 0, 0xFFFF] := of_decide_eq_true h
  exact ⟨g, k, by rw [← List.take_append_drop 6 ip.groups, hmapped, hgroups]; rfl⟩

/-- An address is written so, and in no other form. -/
theorem printed_iff {ip : Ipv6} {text : String} : ip.Printed text ↔ text = ip.render := by
  have hlongest := longest_longestRun ip.groups
  constructor
  · intro h
    cases h with
    | mapped v4 hgroups =>
      obtain ⟨g, k, hv4⟩ : ∃ g k, v4.groups = [g, k] := ⟨_, _, rfl⟩
      rw [hv4] at hgroups
      rw [render_of_mapped hgroups, groups_eq_iff.1 hv4]
    | full hunmapped hscattered =>
      rw [render_of_unmapped hunmapped]
      exact (if_neg fun hseveral => hscattered _ (hlongest.zeros.shorter hseveral)).symm
    | @short hunmapped run hrun hseveral =>
      rw [render_of_unmapped hunmapped, ← hrun.unique hlongest (by omega)]
      exact (if_pos hseveral).symm
  · rintro rfl
    cases hmapped : ip.isMapped with
    | true =>
      obtain ⟨g, k, hgroups⟩ := exists_groups_of_mapped hmapped
      rw [render_of_mapped hgroups]
      exact .mapped _ (by rw [hgroups, groups_eq_iff.2 rfl]; rfl)
    | false =>
      rw [render_of_unmapped hmapped]
      dsimp only
      split
      · rename_i hseveral
        exact .short hmapped hlongest hseveral
      · rename_i hfew
        exact .full hmapped fun start hzeros => hfew (hlongest.longest start 2 hzeros)

/-! ## The written form is read back -/

/-- Groups are written in hexadecimal digits, with colons between them. -/
theorem toList_renderGroups (g : UInt16) (gs : List UInt16) :
    (renderGroups (g :: gs)).toList = Nat.toDigits 16 g.toNat ++ gs.flatMap fun g => ':' :: Nat.toDigits 16 g.toNat := by
  induction gs generalizing g with
  | nil =>
    rw [List.flatMap_nil, List.append_nil]
    exact String.toList_ofList
  | cons k gs ih =>
    have hstep : renderGroups (g :: k :: gs) = String.ofList (Nat.toDigits 16 g.toNat) ++ ":" ++ renderGroups (k :: gs) := rfl
    have hcolon : ":".toList = [':'] := rfl
    rw [hstep, String.toList_append, String.toList_append, String.toList_ofList, hcolon, ih, List.flatMap_cons, List.append_assoc]
    rfl

/-- Groups are written in a row. -/
theorem row_renderGroups (gs : List UInt16) : Row true gs false (renderGroups gs).toList := by
  have hmore (gs : List UInt16) : Row false gs false (gs.flatMap fun g => ':' :: Nat.toDigits 16 g.toNat) := by
    induction gs with
    | nil => exact .nil false
    | cons g gs ih => exact .cons false (group_toDigits g) ih
  cases gs with
  | nil => exact .nil true
  | cons g gs =>
    rw [toList_renderGroups]
    exact .cons true (group_toDigits g) (hmore gs)

/-- Zero groups are left out of a text of an address. -/
theorem written_of_zeros {ip : Ipv6} {hs : List UInt16} {dotted : Bool} {head tail : List Char} (zeros : Nat)
    (hgroups : ip.groups = gs ++ List.replicate (zeros + 1) 0 ++ hs) (hhead : Row true gs false head) (htail : Row true hs dotted tail) :
    ip.Written (head ++ ':' :: ':' :: tail) := by
  obtain ⟨groups, hlength⟩ := ip
  subst hgroups
  exact .short zeros hhead htail hlength

/-- The written form is one of the texts of an address. -/
theorem written_render (ip : Ipv6) : ip.Written ip.render.toList := by
  have hprinted : ip.Printed ip.render := printed_iff.2 rfl
  generalize ip.render = text at hprinted ⊢
  cases hprinted with
  | mapped v4 hgroups =>
    have htail : Row true (0xFFFF :: v4.groups) true (Nat.toDigits 16 (0xFFFF : UInt16).toNat ++ (':' :: v4.render.toList)) :=
      .cons true (group_toDigits 0xFFFF) (.dotted false v4)
    rw [String.toList_append]
    exact written_of_zeros 4 hgroups (.nil true) htail
  | full _ _ => exact .full (row_renderGroups ip.groups) ip.length_groups
  | @short _ run hlongest hseveral =>
    obtain ⟨start, length⟩ := run
    obtain ⟨zeros, rfl⟩ : ∃ zeros, length = zeros + 1 := Nat.exists_eq_add_of_le' (Nat.le_of_lt hseveral)
    rw [String.toList_append, String.toList_append, List.append_assoc]
    exact written_of_zeros zeros hlongest.zeros.split (row_renderGroups _) (row_renderGroups _)

end Ipv6

namespace SocketAddress

/-- The written form of an address with a port is one of its texts. -/
theorem written_render (a : SocketAddress) : a.Written a.render.toList := by
  have hport (port : UInt16) : Numeral port.toNat (toString port).toList := ⟨0, Nat.toList_repr⟩
  cases a with
  | v4 ip port =>
    rw [render, String.toList_append, String.toList_append, List.append_assoc]
    exact .v4 ip (hport port)
  | v6 ip scope port =>
    have haddress := Ipv6.written_render ip
    have hopening : "[".toList = ['['] := rfl
    have hclosing : "]:".toList = [']', ':'] := rfl
    by_cases hscope : scope = 0
    · subst hscope
      simpa [render, hopening, hclosing] using Written.v6 haddress (hport port)
    · have hzone : Numeral scope.toNat (toString scope).toList := ⟨0, Nat.toList_repr⟩
      have hpercent : "%".toList = ['%'] := rfl
      simpa [render, hscope, hopening, hclosing, hpercent] using Written.zoned haddress hzone (hport port)

/-- An address with a port is read from its written form. -/
theorem parse_render (a : SocketAddress) : parse a.render.toList = some a := parse_eq_some_iff.2 (written_render a)

end SocketAddress

end VolumeDriver.Net
