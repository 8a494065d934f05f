import VolumeDriver.Proofs.Net.Numerals

/-!
# Which texts are socket addresses

An IPv4 address has one written form; an IPv6 address is written in eight groups, or in fewer around a double colon, and may end in a
dotted IPv4 address. A socket address is read from the texts that are written so, with a port behind it and maybe a scope, and from no
others (`SocketAddress.parse_eq_some_iff`).
-/

namespace VolumeDriver.Net

variable {cs text rest : List Char}

/-- A character is read off a text that begins with it. -/
theorem readChar_eq_some_iff {c : Char} : readChar c cs = some rest ↔ cs = c :: rest := by
  cases cs with
  | nil => simp [readChar]
  | cons d ds => simp [readChar]

/-- What begins with a digit does not stop. -/
theorem not_stops_append {digit? : Char → Option Nat} {ds : List Nat} (hwrites : Writes digit? text ds) (hsome : ds ≠ []) :
    ¬ Stops digit? (text ++ rest) := by
  intro hstops
  cases hwrites with
  | nil => exact hsome rfl
  | cons hd _ => cases hd.symm.trans (hstops _ rfl)

/-- No group is read where there is no hexadecimal digit. -/
theorem readGroup_of_stops (h : Stops hexDigit? cs) : readGroup cs = none := by
  cases hread : readGroup cs with
  | none => rfl
  | some found =>
    obtain ⟨text, rfl, ⟨ds, hwrites, hleast, _⟩, _⟩ := readGroup_eq_some_iff.1 hread
    exact absurd h (not_stops_append hwrites (List.length_pos_iff.1 hleast))

namespace Ipv4

/-- The octets in their decimal forms, with dots between them. -/
theorem toList_render (ip : Ipv4) :
    ip.render.toList = Nat.toDigits 10 ip.a.toNat ++ '.' :: (Nat.toDigits 10 ip.b.toNat ++ '.' ::
      (Nat.toDigits 10 ip.c.toNat ++ '.' :: Nat.toDigits 10 ip.d.toNat)) := by
  have hchars (a : UInt8) : (toString a).toList = Nat.toDigits 10 a.toNat := Nat.toList_repr
  have hdot : ".".toList = ['.'] := rfl
  simp [render, Text.joinWith, hchars, hdot]

/-- An IPv4 address is read from the text that is written for it. -/
theorem read_eq_some_iff {ip : Ipv4} :
    read cs = some (ip, rest) ↔ cs = ip.render.toList ++ rest ∧ Stops Text.digit? rest := by
  have hdot (r : List Char) : Stops Text.digit? ('.' :: r) := stops_cons rfl r
  rw [toList_render]
  simp only [read, Option.bind_eq_bind, Option.bind_eq_some_iff, Prod.exists, readOctet_eq_some_iff, readChar_eq_some_iff]
  constructor
  · rintro ⟨a, _, ⟨rfl, _⟩, _, rfl, b, _, ⟨rfl, _⟩, _, rfl, c, _, ⟨rfl, _⟩, _, rfl, d, _, ⟨rfl, hstops⟩, hip⟩
    obtain ⟨rfl, rfl⟩ := Prod.mk.inj (Option.some.inj hip)
    simp [hstops]
  · rintro ⟨rfl, hstops⟩
    exact ⟨ip.a, _, ⟨by simp, hdot _⟩, _, rfl, ip.b, _, ⟨rfl, hdot _⟩, _, rfl, ip.c, _, ⟨rfl, hdot _⟩, _, rfl, ip.d, _,
      ⟨rfl, hstops⟩, rfl⟩

/-- Decimal digits are hexadecimal digits too. -/
theorem exists_writes_octet (a : UInt8) : ∃ ds, Writes hexDigit? (Nat.toDigits 10 a.toNat) ds ∧ ds ≠ [] := by
  obtain ⟨ds, hwrites, _⟩ := exists_writes_toDigits (by decide : 1 < 10) (by decide) a.toNat
  refine ⟨ds, hwrites, ?_⟩
  rintro rfl
  exact Nat.toDigits_ne_nil (List.forall₂_nil_right_iff.1 hwrites)

/-- No IPv4 address is read where there is no hexadecimal digit. -/
theorem read_of_stops (h : Stops hexDigit? cs) : read cs = none := by
  cases hread : read cs with
  | none => rfl
  | some found =>
    obtain ⟨rfl, _⟩ := read_eq_some_iff.1 hread
    obtain ⟨ds, hwrites, hsome⟩ := exists_writes_octet found.1.a
    rw [toList_render, List.append_assoc] at h
    exact absurd h (not_stops_append hwrites hsome)

/-- A group that is not followed by a dot does not begin an IPv4 address. -/
theorem read_of_group {g : UInt16} (hg : Group g text) (hstops : Stops hexDigit? rest) (hdot : rest.head? ≠ some '.') :
    read (text ++ rest) = none := by
  cases hread : read (text ++ rest) with
  | none => rfl
  | some found =>
    obtain ⟨hsame, _⟩ := read_eq_some_iff.1 hread
    obtain ⟨ds, hwrites, _⟩ := hg
    obtain ⟨es, hoctet, _⟩ := exists_writes_octet found.1.a
    -- behind the first digits comes a dot after all
    rw [toList_render, List.append_assoc] at hsame
    have htaken := takeDigits_append hwrites hstops
    rw [hsame, List.cons_append, takeDigits_append hoctet (stops_cons rfl _)] at htaken
    rw [← (Prod.mk.inj htaken).2] at hdot
    exact absurd rfl hdot

end Ipv4

namespace Ipv6

/-! ## Groups in a row -/

/-- What stands before a group: a colon, unless it is the first. -/
def separator (first : Bool) : List Char := if first then [] else [':']

/-- Groups with colons between them, and an IPv4 address in the place of the last two, if they are dotted. -/
inductive Row : Bool → List UInt16 → Bool → List Char → Prop
  | nil (first : Bool) : Row first [] false []
  | dotted (first : Bool) (ip : Ipv4) : Row first ip.groups true (separator first ++ ip.render.toList)
  | cons (first : Bool) {g : UInt16} {gs : List UInt16} {dotted : Bool} {text more : List Char} (group : Group g text)
    (row : Row false gs dotted more) : Row first (g :: gs) dotted (separator first ++ (text ++ more))

/-- What stands before a group is read off a text that begins with it. -/
theorem afterColon_eq_some_iff {first : Bool} : afterColon first cs = some rest ↔ cs = separator first ++ rest := by
  cases first with
  | true => exact Option.some_inj
  | false => exact readChar_eq_some_iff

/-- Groups that are not the first ones begin with a colon, if there are any. -/
theorem Row.head {gs : List UInt16} {dotted : Bool} (h : Row false gs dotted text) : text = [] ∨ ∃ more, text = ':' :: more := by
  cases h with
  | nil => exact Or.inl rfl
  | dotted => exact Or.inr ⟨_, rfl⟩
  | cons => exact Or.inr ⟨_, rfl⟩

/-- What is read is a row. -/
theorem row_of_readGroups {n : Nat} {first : Bool} {gs : List UInt16} {dotted : Bool}
    (h : readGroups n first cs = (gs, dotted, rest)) : ∃ text, cs = text ++ rest ∧ Row first gs dotted text ∧ gs.length ≤ n := by
  induction n generalizing first cs gs dotted with
  | zero =>
    cases h
    exact ⟨[], rfl, .nil first, Nat.le_refl _⟩
  | succ n ih =>
    have hnone : ([], false, cs) = (gs, dotted, rest) → ∃ text, cs = text ++ rest ∧ Row first gs dotted text ∧ gs.length ≤ n + 1 := by
      rintro ⟨⟩
      exact ⟨[], rfl, .nil first, Nat.zero_le _⟩
    rw [readGroups] at h
    split at h
    · exact hnone h
    · rename_i r hr
      obtain rfl := afterColon_eq_some_iff.1 hr
      split at h
      · rename_i ip more hip
        split at hip
        · cases hip
        · rename_i hn
          obtain ⟨rfl, _⟩ := Ipv4.read_eq_some_iff.1 hip
          cases h
          refine ⟨_, (List.append_assoc _ _ _).symm, .dotted first ip, ?_⟩
          rw [Ipv4.groups, List.length_cons, List.length_singleton]
          omega
      · split at h
        · exact hnone h
        · rename_i g more hg
          obtain ⟨text, rfl, hgroup, _⟩ := readGroup_eq_some_iff.1 hg
          rcases hmore : readGroups n false more with ⟨gs', dotted', rest'⟩
          rw [hmore] at h
          cases h
          obtain ⟨text', rfl, hrow, hlength⟩ := ih hmore
          refine ⟨separator first ++ (text ++ text'), by simp, .cons first hgroup hrow, Nat.succ_le_succ hlength⟩

/-- No group goes on there. -/
structure Closing (rest : List Char) : Prop where
  stops : Stops hexDigit? rest
  dot : rest.head? ≠ some '.'
  colon : ∀ r, rest = ':' :: r → Stops hexDigit? r

/-- No group is read where none goes on. -/
theorem readGroups_of_closing (h : Closing rest) (n : Nat) (first : Bool) : readGroups n first rest = ([], false, rest) := by
  cases n with
  | zero => rfl
  | succ n =>
    rw [readGroups]
    split
    · rfl
    · rename_i r hr
      have hstops : Stops hexDigit? r := by
        cases first with
        | true =>
          obtain rfl := afterColon_eq_some_iff.1 hr
          exact h.stops
        | false => exact h.colon r (afterColon_eq_some_iff.1 hr)
      simp [Ipv4.read_of_stops hstops, readGroup_of_stops hstops]

/-- A row is read as far as it goes, if there is room for it. -/
theorem Row.readGroups {n : Nat} {first : Bool} {gs : List UInt16} {dotted : Bool} (h : Row first gs dotted text)
    (hlength : gs.length ≤ n) (hrest : Closing rest) : readGroups n first (text ++ rest) = (gs, dotted, rest) := by
  induction h generalizing n with
  | nil first => exact readGroups_of_closing hrest n first
  | dotted first ip =>
    obtain ⟨k, rfl⟩ : ∃ k, n = k + 2 := Nat.exists_eq_add_of_le' hlength
    have hread : Ipv4.read (ip.render.toList ++ rest) = some (ip, rest) :=
      Ipv4.read_eq_some_iff.2 ⟨rfl, fun c hc => stops_of_hexDigit (hrest.stops c hc)⟩
    rw [Ipv6.readGroups, List.append_assoc, afterColon_eq_some_iff.2 rfl]
    dsimp only
    rw [if_neg (Nat.succ_ne_zero k), hread]
  | @cons first g gs dotted text more hg hrow ih =>
    obtain ⟨k, rfl⟩ : ∃ k, n = k + 1 := Nat.exists_eq_add_of_le' (Nat.le_trans (Nat.succ_le_succ (Nat.zero_le _)) hlength)
    have hmore : Stops hexDigit? (more ++ rest) ∧ (more ++ rest).head? ≠ some '.' := by
      rcases hrow.head with rfl | ⟨more, rfl⟩
      · exact ⟨hrest.stops, hrest.dot⟩
      · exact ⟨stops_cons rfl _, by simp⟩
    have hnone : (if k = 0 then none else Ipv4.read (text ++ (more ++ rest))) = none := by
      rw [Ipv4.read_of_group hg hmore.1 hmore.2, ite_self]
    rw [Ipv6.readGroups, List.append_assoc, List.append_assoc, afterColon_eq_some_iff.2 rfl]
    dsimp only
    rw [hnone, readGroup_eq_some_iff.2 ⟨text, rfl, hg, hmore.1⟩]
    dsimp only
    rw [ih (Nat.le_of_succ_le_succ hlength)]

/-! ## Addresses -/

/-- The texts of an address: eight groups, or fewer with a double colon in the place of one zero group or more. -/
inductive Written : Ipv6 → List Char → Prop
  | full {gs : List UInt16} {dotted : Bool} {text : List Char} (row : Row true gs dotted text) (length : gs.length = 8) :
    Written ⟨gs, length⟩ text
  | short {gs hs : List UInt16} {dotted : Bool} {before behind : List Char} (zeros : Nat) (head : Row true gs false before)
    (tail : Row true hs dotted behind) (length : (gs ++ List.replicate (zeros + 1) 0 ++ hs).length = 8) :
    Written ⟨gs ++ List.replicate (zeros + 1) 0 ++ hs, length⟩ (before ++ ':' :: ':' :: behind)

/-- Two rows make up an address when they are filled up with zeros between them to eight groups. -/
theorem ofParts_eq_some_iff {gs hs : List UInt16} {ip : Ipv6} :
    ofParts gs hs = some ip ↔ ip.groups = gs ++ List.replicate (8 - (gs.length + hs.length)) 0 ++ hs := by
  rw [ofParts]
  split
  · rw [Option.some.injEq, Ipv6.mk.injEq, eq_comm]
  · rename_i hlength
    refine iff_of_false nofun fun h => hlength ?_
    rw [← h, ip.length_groups]

/-- What is read is written. -/
theorem written_of_read {ip : Ipv6} (h : read cs = some (ip, rest)) : ∃ text, cs = text ++ rest ∧ Written ip text := by
  rw [read] at h
  rcases hhead : readGroups 8 true cs with ⟨gs, dotted, behind⟩
  obtain ⟨before, rfl, hgs, hmost⟩ := row_of_readGroups hhead
  rw [hhead] at h
  dsimp only [Option.bind_eq_bind, Option.bind_some] at h
  split at h
  · rename_i hlength
    obtain ⟨ip, hparts, hip⟩ := Option.map_eq_some_iff.1 h
    cases hip
    have hgroups : ip.groups = gs := by
      rw [ofParts_eq_some_iff.1 hparts, hlength]
      simp
    obtain ⟨_, _⟩ := ip
    subst hgroups
    exact ⟨before, rfl, .full hgs hlength⟩
  · rename_i hlength
    cases dotted with
    | true => cases h
    | false =>
      simp only [Bool.false_eq_true, if_false, Option.bind_eq_some_iff, readChar_eq_some_iff] at h
      obtain ⟨_, ⟨_, rfl, rfl⟩, r, rfl, h⟩ := h
      rcases htail : readGroups (8 - (gs.length + 1)) true r with ⟨hs, tailDotted, rest'⟩
      obtain ⟨behind, rfl, hhs, hfew⟩ := row_of_readGroups htail
      rw [htail] at h
      obtain ⟨ip, hparts, hip⟩ := Option.map_eq_some_iff.1 h
      cases hip
      -- there is room for one zero group at least
      obtain ⟨zeros, hzeros⟩ : ∃ zeros, 8 - (gs.length + hs.length) = zeros + 1 := Nat.exists_eq_add_of_le' (by omega)
      have hgroups := ofParts_eq_some_iff.1 hparts
      rw [hzeros] at hgroups
      obtain ⟨groups, hlength'⟩ := ip
      subst hgroups
      exact ⟨before ++ ':' :: ':' :: behind, by simp, .short zeros hgs hhs hlength'⟩

/-- What is written is read, if no group goes on behind it. -/
theorem Written.read {ip : Ipv6} (h : Written ip text) (hrest : Closing rest) : read (text ++ rest) = some (ip, rest) := by
  cases h with
  | @full gs dotted text row length =>
    rw [Ipv6.read, row.readGroups (Nat.le_of_eq length) hrest]
    dsimp only
    rw [if_pos length, ofParts_eq_some_iff.2]
    · rfl
    · simp [length]
  | @short gs hs dotted before behind zeros head tail length =>
    have hcount : gs.length + (zeros + 1) + hs.length = 8 := by simpa [Nat.add_assoc] using length
    have hclosing : Closing (':' :: ':' :: (behind ++ rest)) := by
      refine ⟨stops_cons rfl _, by simp, ?_⟩
      rintro _ ⟨⟩
      exact stops_cons rfl _
    rw [Ipv6.read, List.append_assoc, List.cons_append, List.cons_append, head.readGroups (by omega) hclosing]
    dsimp only
    rw [if_neg (by omega), if_neg Bool.false_ne_true]
    show Option.map _ (ofParts gs (readGroups (8 - (gs.length + 1)) true (behind ++ rest)).1) = _
    rw [tail.readGroups (by omega) hrest, ofParts_eq_some_iff.2]
    · rfl
    · have hzeros : 8 - (gs.length + hs.length) = zeros + 1 := by omega
      rw [hzeros]

end Ipv6

/-! ## Addresses with a port -/

namespace SocketAddress

variable {number zone : List Char}

/-- The texts of an address with a port. -/
inductive Written : SocketAddress → List Char → Prop
  | v4 (ip : Ipv4) {port : UInt16} {number : List Char} (portNumeral : Numeral port.toNat number) :
    Written (.v4 ip port) (ip.render.toList ++ ':' :: number)
  | v6 {ip : Ipv6} {port : UInt16} {text number : List Char} (address : ip.Written text) (portNumeral : Numeral port.toNat number) :
    Written (.v6 ip 0 port) ('[' :: (text ++ ']' :: ':' :: number))
  | zoned {ip : Ipv6} {scope : UInt32} {port : UInt16} {text zone number : List Char} (address : ip.Written text)
    (scopeNumeral : Numeral scope.toNat zone) (portNumeral : Numeral port.toNat number) :
    Written (.v6 ip scope port) ('[' :: (text ++ '%' :: (zone ++ ']' :: ':' :: number)))

/-- A port is read from its numerals. -/
theorem readPort_eq_some_iff {port : UInt16} :
    readPort cs = some (port, rest) ↔ ∃ number, cs = ':' :: (number ++ rest) ∧ Numeral port.toNat number ∧ Stops Text.digit? rest := by
  simp only [readPort, Option.bind_eq_bind, Option.bind_eq_some_iff, Prod.exists, readDecimal_eq_some_iff, readChar_eq_some_iff]
  constructor
  · rintro ⟨_, rfl, n, _, ⟨number, rfl, hnumeral, hbound, hstops⟩, hport⟩
    obtain ⟨rfl, rfl⟩ := Prod.mk.inj (Option.some.inj hport)
    refine ⟨number, rfl, ?_, hstops⟩
    rwa [show n.toUInt16.toNat = n from UInt16.toNat_ofNat_of_lt' (Nat.lt_succ_of_le hbound)]
  · rintro ⟨number, rfl, hnumeral, hstops⟩
    exact ⟨_, rfl, port.toNat, rest, ⟨number, rfl, hnumeral, Nat.le_of_lt_succ port.toNat_lt, hstops⟩,
      congrArg (fun p => some (p, rest)) UInt16.ofNat_toNat⟩

/-- A numeral behind a percent sign is read as a scope. -/
theorem readScope_of_numeral {scope : UInt32} (h : Numeral scope.toNat zone) (hstops : Stops Text.digit? rest) :
    readScope ('%' :: (zone ++ rest)) = (scope, rest) := by
  have hbound : scope.toNat ≤ 0xFFFFFFFF := Nat.le_of_lt_succ scope.toNat_lt
  have hread : readChar '%' ('%' :: (zone ++ rest)) >>= readDecimal 0xFFFFFFFF = some (scope.toNat, rest) :=
    readDecimal_eq_some_iff.2 ⟨zone, rfl, h, hbound, hstops⟩
  rw [readScope, hread]
  exact congrArg (·, rest) UInt32.ofNat_toNat

/-- Where no scope is read, nothing is taken. -/
theorem readScope_cases (cs : List Char) :
    (∃ zone rest scope, cs = '%' :: (zone ++ rest) ∧ Numeral (UInt32.toNat scope) zone ∧ readScope cs = (scope, rest)) ∨
      readScope cs = (0, cs) := by
  rw [readScope]
  split
  · rename_i n rest hread
    obtain ⟨_, hsign, hnumber⟩ := Option.bind_eq_some_iff.1 hread
    obtain rfl := readChar_eq_some_iff.1 hsign
    obtain ⟨zone, rfl, hnumeral, hbound, _⟩ := readDecimal_eq_some_iff.1 hnumber
    refine Or.inl ⟨zone, rest, n.toUInt32, rfl, ?_, rfl⟩
    rwa [show n.toUInt32.toNat = n from UInt32.toNat_ofNat_of_lt' (Nat.lt_succ_of_le hbound)]
  · exact Or.inr rfl

/-- A text is read as an IPv4 address with a port exactly if the address is written there, and a numeral of the port behind a colon.
-/
theorem readV4_eq_some_iff {a : SocketAddress} :
    readV4 cs = some (a, rest) ↔ ∃ ip port number, a = .v4 ip port ∧ cs = ip.render.toList ++ ':' :: (number ++ rest) ∧
      Numeral (UInt16.toNat port) number ∧ Stops Text.digit? rest := by
  simp only [readV4, Option.bind_eq_bind, Option.bind_eq_some_iff, Prod.exists, Ipv4.read_eq_some_iff, readPort_eq_some_iff]
  constructor
  · rintro ⟨ip, _, ⟨rfl, _⟩, port, _, ⟨number, rfl, hnumeral, hstops⟩, ha⟩
    obtain ⟨rfl, rfl⟩ := Prod.mk.inj (Option.some.inj ha)
    exact ⟨ip, port, number, rfl, rfl, hnumeral, hstops⟩
  · rintro ⟨ip, port, number, rfl, rfl, hnumeral, hstops⟩
    exact ⟨ip, _, ⟨rfl, stops_cons rfl _⟩, port, rest, ⟨number, rfl, hnumeral, hstops⟩, rfl⟩

/-- What is read as an IPv6 address with a port is a text of it. -/
theorem written_of_readV6 {a : SocketAddress} (h : readV6 cs = some (a, rest)) : ∃ text, cs = text ++ rest ∧ a.Written text := by
  simp only [readV6, Option.bind_eq_bind, Option.bind_eq_some_iff, Prod.exists, readChar_eq_some_iff, readPort_eq_some_iff] at h
  obtain ⟨_, rfl, ip, behind, hread, _, hbracket, port, _, ⟨number, rfl, hport, _⟩, ha⟩ := h
  obtain ⟨rfl, rfl⟩ := Prod.mk.inj (Option.some.inj ha)
  obtain ⟨text, rfl, haddress⟩ := Ipv6.written_of_read hread
  rcases readScope_cases behind with ⟨zone, r, scope, rfl, hscope, hzone⟩ | hnone
  · rw [hzone] at hbracket ⊢
    obtain rfl := hbracket
    exact ⟨_, by simp, .zoned haddress hscope hport⟩
  · rw [hnone] at hbracket ⊢
    obtain rfl := hbracket
    exact ⟨_, by simp, .v6 haddress hport⟩

/-- A text in brackets is read as an IPv6 address with a port. -/
theorem readV6_of_written {ip : Ipv6} {scope : UInt32} {port : UInt16} {behind : List Char} (haddress : ip.Written text)
    (hclosing : Ipv6.Closing behind) (hscope : readScope behind = (scope, ']' :: ':' :: number)) (hport : Numeral port.toNat number) :
    readV6 ('[' :: (text ++ behind)) = some (.v6 ip scope port, []) := by
  have hread : readPort (':' :: number) = some (port, []) :=
    readPort_eq_some_iff.2 ⟨number, by simp, hport, nofun⟩
  rw [readV6, readChar_eq_some_iff.2 rfl]
  simp only [Option.bind_eq_bind, Option.bind_some]
  rw [haddress.read hclosing]
  simp only [Option.bind_some]
  rw [hscope, readChar_eq_some_iff.2 rfl, Option.bind_some, hread]
  rfl

/-- An address with a port is read from its texts, and from nothing else. -/
theorem parse_eq_some_iff {a : SocketAddress} : parse cs = some a ↔ a.Written cs := by
  constructor
  · intro h
    rw [parse] at h
    split at h
    · rename_i a' hread
      cases h
      rcases Option.or_eq_some_iff.1 (Option.orElse_eq_or.symm.trans hread) with hv4 | ⟨_, hv6⟩
      · obtain ⟨ip, port, number, rfl, rfl, hport, _⟩ := readV4_eq_some_iff.1 hv4
        rw [List.append_nil]
        exact .v4 ip hport
      · obtain ⟨text, rfl, hwritten⟩ := written_of_readV6 hv6
        rwa [List.append_nil]
    · cases h
  · have hbracket (r : List Char) : readV4 ('[' :: r) = none := by
      rw [readV4, Ipv4.read_of_stops (stops_cons rfl r)]
      rfl
    have hclosing {c : Char} (r : List Char) (hc : c = ']' ∨ c = '%') : Ipv6.Closing (c :: r) := by
      rcases hc with rfl | rfl
      all_goals exact ⟨stops_cons rfl r, by simp, nofun⟩
    intro h
    cases h with
    | @v4 ip port number hport =>
      have hread : readV4 (ip.render.toList ++ ':' :: number) = some (.v4 ip port, []) :=
        readV4_eq_some_iff.2 ⟨ip, port, number, rfl, by simp, hport, nofun⟩
      rw [parse, hread]
      rfl
    | @v6 ip port text number haddress hport =>
      have hscope : readScope (']' :: ':' :: number) = (0, ']' :: ':' :: number) := rfl
      rw [parse, hbracket, readV6_of_written haddress (hclosing _ (Or.inl rfl)) hscope hport]
      rfl
    | @zoned ip scope port text zone number haddress hscope hport =>
      have hread : readScope ('%' :: (zone ++ ']' :: ':' :: number)) = (scope, ']' :: ':' :: number) :=
        readScope_of_numeral hscope (stops_cons rfl _)
      rw [parse, hbracket, readV6_of_written haddress (hclosing _ (Or.inr rfl)) hread hport]
      rfl

end SocketAddress

end VolumeDriver.Net
