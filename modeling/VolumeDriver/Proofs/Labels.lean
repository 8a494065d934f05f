import Mathlib.Data.List.Forall2
import VolumeDriver.Labels
import VolumeDriver.Proofs.SortedMap
import VolumeDriver.Proofs.Text.Words

/-!
# Labels are read as they are printed

A piece tells a label if it is the printed form of one, with a key and with a single equals sign (`Tells`), and is else faulty in one of
two ways (`Faulty`). A text is read as the map of the labels that its pieces tell, or not at all because of its first faulty piece
(`parse_exactly`).
-/

namespace VolumeDriver.Labels

open Text

variable {label : String × String} {labels : List (String × String)} {piece : String} {pieces : List String} {e : LabelError}

/-! ## Maps of labels -/

/-- Of several sources of a label the last counts. -/
theorem get?_merge (sources : List StringMap) (key : String) :
    (merge sources).get? key = sources.foldl (fun label source => (source.get? key).or label) none :=
  (List.foldl_hom (SortedMap.get? · key) fun m source => (SortedMap.get?_union m source key).symm).symm

/-! ## One piece -/

/-- A label in print: its key and its value, both in margins of white space, with an equals sign between them. -/
def Printed (label : String × String) (piece : String) : Prop :=
  ∃ key value, InMargins label.1.toList key ∧ InMargins label.2.toList value ∧ piece.toList = key ++ '=' :: value

/-- A piece tells a label with a key, around the only equals sign in it. -/
structure Tells (label : String × String) (piece : String) : Prop where
  once : piece.toList.count '=' = 1
  printed : Printed label piece
  named : label.1 ≠ ""
  key : Trimmed label.1.toList
  value : Trimmed label.2.toList

/-- A piece that tells no label, and why: it has no equals sign or several, or no key before its only one. -/
inductive Faulty (piece : String) : LabelError → Prop where
  | pair (h : piece.toList.count '=' ≠ 1) : Faulty piece (.invalidPair piece)
  | key {value : String} (hpair : piece.toList.count '=' = 1) (hkey : Printed ("", value) piece) : Faulty piece (.emptyKey piece)

/-- With one equals sign in a piece there is none in what is around it. -/
theorem splitAtChar_of_count {key value : List Char} (hpiece : piece.toList = key ++ '=' :: value)
    (hpair : piece.toList.count '=' = 1) : splitAtChar '=' piece.toList = [key, value] := by
  have hnone : '=' ∉ key ∧ '=' ∉ value := by
    rw [hpiece, List.count_append, List.count_cons_self] at hpair
    exact ⟨List.count_eq_zero.1 (by omega), List.count_eq_zero.1 (by omega)⟩
  rw [hpiece, splitAtChar_append, splitAtChar_of_not_mem hnone.1, splitAtChar_of_not_mem hnone.2, List.singleton_append]

/-- A piece that tells a label is read as that label. -/
theorem Tells.readPair (h : Tells label piece) : readPair piece.toList = .ok label := by
  obtain ⟨key, value, hkey, hvalue, hpiece⟩ := h.printed
  have hname : (trimChars key).isEmpty = false := by simpa [trimChars_iff.2 ⟨h.key, hkey⟩] using h.named
  rw [Labels.readPair, splitAtChar_of_count hpiece h.once]
  dsimp only
  rw [hname, trimChars_iff.2 ⟨h.key, hkey⟩, trimChars_iff.2 ⟨h.value, hvalue⟩]
  simp

/-- A faulty piece is refused with its fault. -/
theorem Faulty.readPair (h : Faulty piece e) : readPair piece.toList = .error e := by
  cases h with
  | pair hpair =>
    unfold Labels.readPair
    split
    · rename_i hsplit
      have hlength := length_splitAtChar '=' piece.toList
      rw [hsplit] at hlength
      exact absurd (Nat.succ.inj hlength).symm hpair
    · rw [String.ofList_toList]
  | key hpair hkey =>
    obtain ⟨key, value, hkey, _, hpiece⟩ := hkey
    rw [Labels.readPair, splitAtChar_of_count hpiece hpair]
    dsimp only
    rw [trimChars_iff.2 ⟨⟨by simp, by simp⟩, hkey⟩]
    simp

/-- A piece tells a label or is faulty. -/
theorem tells_or_faulty (piece : String) : (∃ label, Tells label piece) ∨ ∃ e, Faulty piece e := by
  by_cases hpair : piece.toList.count '=' = 1
  · have hmem : '=' ∈ piece.toList := List.count_pos_iff.1 (by omega)
    obtain ⟨key, value, hpiece, _⟩ := List.eq_append_cons_of_mem hmem
    obtain ⟨hkey, hkeyMargins⟩ := trimChars_iff.1 (Eq.refl (trimChars key))
    obtain ⟨hvalue, hvalueMargins⟩ := trimChars_iff.1 (Eq.refl (trimChars value))
    rw [← String.toList_ofList (l := trimChars key)] at hkey hkeyMargins
    rw [← String.toList_ofList (l := trimChars value)] at hvalue hvalueMargins
    have hprinted : Printed (String.ofList (trimChars key), String.ofList (trimChars value)) piece :=
      ⟨key, value, hkeyMargins, hvalueMargins, hpiece⟩
    by_cases hname : String.ofList (trimChars key) = ""
    · exact .inr ⟨_, .key hpair (hname ▸ hprinted)⟩
    · exact .inl ⟨_, hpair, hprinted, hname, hkey, hvalue⟩
  · exact .inr ⟨_, .pair hpair⟩

/-! ## Pieces in a row -/

/-- The first faulty piece, behind others that tell labels, and its fault. -/
def FirstFault (pieces : List String) (e : LabelError) : Prop :=
  ∃ before piece after, pieces = before ++ piece :: after ∧ (∀ other ∈ before, ∃ label, Tells label other) ∧ Faulty piece e

/-- All pieces tell labels, or there is a first that is faulty. -/
theorem tell_or_firstFault (pieces : List String) : (∃ labels, List.Forall₂ Tells labels pieces) ∨ ∃ e, FirstFault pieces e := by
  induction pieces with
  | nil => exact .inl ⟨[], .nil⟩
  | cons piece pieces ih =>
    rcases tells_or_faulty piece with ⟨label, htells⟩ | ⟨e, hfaulty⟩
    · rcases ih with ⟨labels, hlabels⟩ | ⟨e, before, other, after, rfl, hbefore, hfaulty⟩
      · exact .inl ⟨label :: labels, .cons htells hlabels⟩
      · exact .inr ⟨e, piece :: before, other, after, rfl, List.forall_mem_cons.2 ⟨⟨label, htells⟩, hbefore⟩, hfaulty⟩
    · exact .inr ⟨e, [], piece, pieces, rfl, by simp, hfaulty⟩

/-- Pieces that tell labels bind their keys one after another, and what follows is read then. -/
theorem readPairs_append (h : List.Forall₂ Tells labels pieces) (m : StringMap) (rest : List (List Char)) :
    readPairs m (pieces.map String.toList ++ rest) = readPairs (labels.foldl (fun m label => m.insert label.1 label.2) m) rest := by
  induction h generalizing m with
  | nil => rfl
  | cons htells _ ih =>
    rw [List.map_cons, List.cons_append, readPairs, htells.readPair]
    exact ih _

/-- Pieces that all tell labels are read as those labels, the last value of a key being kept. -/
theorem readPairs_of_tells (h : List.Forall₂ Tells labels pieces) :
    readPairs .empty (pieces.map String.toList) = .ok (.ofList labels) := by
  have hread := readPairs_append h .empty []
  rwa [List.append_nil] at hread

/-- Pieces are refused with the first fault among them. -/
theorem FirstFault.readPairs (h : FirstFault pieces e) : readPairs .empty (pieces.map String.toList) = .error e := by
  obtain ⟨before, piece, after, rfl, hbefore, hfaulty⟩ := h
  obtain ⟨labels, hlabels⟩ := exists_forall₂_iff.2 hbefore
  rw [List.map_append, List.map_cons, readPairs_append hlabels, Labels.readPairs, hfaulty.readPair]

/-! ## Texts -/

/-- A blank text is read as no labels. -/
theorem parse_of_blank {s : String} (h : Blank s.toList) : parse s = .ok .empty := by
  rw [parse, trimChars_eq_nil_iff.2 h]
  rfl

/-- Any other text is read piece by piece. -/
theorem parse_of_not_blank {s : String} (h : ¬ Blank s.toList) (hpieces : Pieces ',' s pieces) :
    parse s = readPairs .empty (pieces.map String.toList) := by
  have hsome : (trimChars s.toList).isEmpty = false := by simpa [trimChars_eq_nil_iff] using h
  have hsplit : pieces.map String.toList = splitAtChar ',' s.toList := by
    rw [← pieces_iff.1 hpieces, split, List.map_map]
    simp
  rw [parse, hsome, hsplit]
  rfl

/-- A text of labels is not blank. -/
theorem not_blank_of_tells {s : String} (hpieces : Pieces ',' s pieces) (h : List.Forall₂ Tells labels pieces) : ¬ Blank s.toList := by
  intro hblank
  obtain ⟨piece, rest, rfl⟩ := List.exists_cons_of_ne_nil hpieces.some
  obtain ⟨label, htells⟩ := exists_forall₂_iff.1 ⟨labels, h⟩ piece List.mem_cons_self
  have hequals : '=' ∈ piece.toList := List.count_pos_iff.1 (by rw [htells.once]; exact Nat.one_pos)
  have hsplit := pieces_iff.1 hpieces
  have hpiece : piece.toList ∈ splitAtChar ',' s.toList := by
    have hmem : piece ∈ split ',' s := hsplit ▸ List.mem_cons_self
    obtain ⟨cs, hcs, rfl⟩ := List.mem_map.1 hmem
    rwa [String.toList_ofList]
  have hmem : '=' ∈ s.toList := (mem_splitAtChar_iff (by decide)).1 ⟨_, hpiece, hequals⟩
  exact absurd (hblank '=' hmem) (by decide)

/-- A text whose pieces all tell labels is read as those labels. -/
theorem parse_of_tells {s : String} (hpieces : Pieces ',' s pieces) (h : List.Forall₂ Tells labels pieces) :
    parse s = .ok (.ofList labels) := by
  rw [parse_of_not_blank (not_blank_of_tells hpieces h) hpieces, readPairs_of_tells h]

/-- A text is refused with the fault of its first faulty piece. -/
theorem parse_of_firstFault {s : String} (hsome : ¬ Blank s.toList) (hpieces : Pieces ',' s pieces) (h : FirstFault pieces e) :
    parse s = .error e := by
  rw [parse_of_not_blank hsome hpieces, h.readPairs]

/-- A text is accepted exactly if each of its pieces tells a label, and then as those labels. -/
theorem parse_ok_iff_tells {s : String} (hsome : ¬ Blank s.toList) (hpieces : Pieces ',' s pieces) {m : StringMap} :
    parse s = .ok m ↔ ∃ labels, List.Forall₂ Tells labels pieces ∧ m = .ofList labels := by
  constructor
  · intro h
    rcases tell_or_firstFault pieces with ⟨labels, hlabels⟩ | ⟨e, hfault⟩
    · rw [parse_of_tells hpieces hlabels] at h
      exact ⟨labels, hlabels, (Except.ok.inj h).symm⟩
    · rw [parse_of_firstFault hsome hpieces hfault] at h
      cases h
  · rintro ⟨labels, hlabels, rfl⟩
    exact parse_of_tells hpieces hlabels

/-- A text is refused exactly with the fault of its first faulty piece. -/
theorem parse_error_iff {s : String} (hsome : ¬ Blank s.toList) (hpieces : Pieces ',' s pieces) :
    parse s = .error e ↔ FirstFault pieces e := by
  refine ⟨fun h => ?_, parse_of_firstFault hsome hpieces⟩
  rcases tell_or_firstFault pieces with ⟨labels, hlabels⟩ | ⟨other, hfault⟩
  · rw [parse_of_tells hpieces hlabels] at h
    cases h
  · rw [parse_of_firstFault hsome hpieces hfault] at h
    exact Except.error.inj h ▸ hfault

/-- The map of a list is the one that binds each key as it is bound last. -/
theorem eq_ofList_iff {m : StringMap} :
    m = .ofList labels ↔ ∀ key value, m.get? key = some value ↔ SortedMap.IsLast key value labels := by
  constructor
  · rintro rfl key value
    exact SortedMap.get?_ofList_iff
  · exact fun h => SortedMap.ext fun key => Option.ext fun value => (h key value).trans SortedMap.get?_ofList_iff.symm

/-! ## Labels in print -/

/-- A text that can be a key or a value in print. -/
structure Plain (s : String) : Prop where
  comma : ',' ∉ s.toList
  equals : '=' ∉ s.toList
  trimmed : Trimmed s.toList

/-- A label that can be printed. -/
structure Printable (label : String × String) : Prop where
  named : label.1 ≠ ""
  key : Plain label.1
  value : Plain label.2

instance (s : String) : Decidable (Plain s) :=
  decidable_of_iff (',' ∉ s.toList ∧ '=' ∉ s.toList ∧ Trimmed s.toList)
    ⟨fun h => ⟨h.1, h.2.1, h.2.2⟩, fun h => ⟨h.comma, h.equals, h.trimmed⟩⟩

instance (label : String × String) : Decidable (Printable label) :=
  decidable_of_iff (label.1 ≠ "" ∧ Plain label.1 ∧ Plain label.2)
    ⟨fun h => ⟨h.1, h.2.1, h.2.2⟩, fun h => ⟨h.named, h.key, h.value⟩⟩

/-- White space in the margins adds no character that is not white space. -/
theorem not_mem_of_inMargins {core cs : List Char} {c : Char} (h : InMargins core cs) (hc : isBlank c = false) (hcore : c ∉ core) :
    c ∉ cs := by
  obtain ⟨before, after, hbefore, hafter, rfl⟩ := h
  have hnone : ∀ {gap : List Char}, Blank gap → c ∉ gap := fun hgap hmem => by
    rw [hgap c hmem] at hc
    cases hc
  rw [List.mem_append, List.mem_append, not_or, not_or]
  exact ⟨hnone hbefore, hcore, hnone hafter⟩

/-- A printable label in print is a piece that tells it. -/
theorem Printable.tells (h : Printable label) (hprinted : Printed label piece) : Tells label piece := by
  obtain ⟨key, value, hkey, hvalue, hpiece⟩ := hprinted
  refine ⟨?_, ⟨key, value, hkey, hvalue, hpiece⟩, h.named, h.key.trimmed, h.value.trimmed⟩
  rw [hpiece, List.count_append, List.count_cons_self,
    List.count_eq_zero.2 (not_mem_of_inMargins hkey (by decide) h.key.equals),
    List.count_eq_zero.2 (not_mem_of_inMargins hvalue (by decide) h.value.equals)]

/-- A printable label in print has no comma in it. -/
theorem Printable.not_mem (h : Printable label) (hprinted : Printed label piece) : ',' ∉ piece.toList := by
  obtain ⟨key, value, hkey, hvalue, hpiece⟩ := hprinted
  rw [hpiece, List.mem_append, List.mem_cons, not_or, not_or]
  exact ⟨not_mem_of_inMargins hkey (by decide) h.key.comma, by decide, not_mem_of_inMargins hvalue (by decide) h.value.comma⟩

/-- Labels in print, in any order, are read back. -/
theorem parse_printed {m : StringMap} (hprintable : ∀ label ∈ m.toList, Printable label) (horder : labels.Perm m.toList)
    (hprinted : List.Forall₂ Printed labels pieces) : parse (joinWith "," pieces) = .ok m := by
  have hall : ∀ label ∈ labels, Printable label := fun label hlabel => hprintable label (horder.mem_iff.1 hlabel)
  rw [← SortedMap.ofList_of_perm horder]
  by_cases hnone : pieces = []
  · subst hnone
    cases hprinted
    exact parse_of_blank blank_nil
  · have hboth := (List.forall₂_and_left labels pieces).2 ⟨hall, hprinted⟩
    refine parse_of_tells ⟨hnone, fun piece hpiece => ?_, rfl⟩ (hboth.imp fun label piece h => h.1.tells h.2)
    obtain ⟨label, hlabel, hpiece⟩ := exists_forall₂_iff.1 ⟨labels, hboth⟩ piece hpiece
    exact hlabel.not_mem hpiece

/-- A blank text has no labels. Any other text consists of pieces between commas, and is read if each of them tells a label, as the map
in which each key has the value that is told of it last, or else is not read, because of the first faulty piece. Labels in print, in any
order, are read as the map of these labels. -/
theorem parse_exactly :
    (∀ s : String, Blank s.toList → parse s = .ok .empty) ∧
    (∀ s : String, ¬ Blank s.toList → ∃ pieces, Pieces ',' s pieces ∧
      ((∃ m, parse s = .ok m) ↔ ∀ piece ∈ pieces, ∃ label, Tells label piece) ∧
      (∀ m, parse s = .ok m ↔
        ∃ labels, List.Forall₂ Tells labels pieces ∧ ∀ key value, m.get? key = some value ↔ SortedMap.IsLast key value labels) ∧
      ∀ e, parse s = .error e ↔ FirstFault pieces e) ∧
    ∀ (m : StringMap) (labels : List (String × String)) (pieces : List String), (∀ label ∈ m.toList, Printable label) →
      labels.Perm m.toList → List.Forall₂ Printed labels pieces → parse (joinWith "," pieces) = .ok m := by
  refine ⟨fun s => parse_of_blank, fun s hsome => ?_, fun m labels pieces => parse_printed⟩
  have hpieces : Pieces ',' s (split ',' s) := pieces_iff.2 rfl
  refine ⟨split ',' s, hpieces, ?_, fun m => ?_, fun e => parse_error_iff hsome hpieces⟩
  · rw [← exists_forall₂_iff]
    constructor
    · rintro ⟨m, h⟩
      obtain ⟨labels, hlabels, _⟩ := (parse_ok_iff_tells hsome hpieces).1 h
      exact ⟨labels, hlabels⟩
    · rintro ⟨labels, hlabels⟩
      exact ⟨_, parse_of_tells hpieces hlabels⟩
  · rw [parse_ok_iff_tells hsome hpieces]
    simp only [eq_ofList_iff]

/-- The spaced labels and the bare `b` that are checked by hand. -/
theorem parse_exactly_zones :
    parse "zone = b , tier=x" = .ok (.ofList [("tier", "x"), ("zone", "b")]) ∧
      ¬ Blank "zone=a,b,=c".toList ∧ FirstFault ["zone=a", "b", "=c"] (.invalidPair "b") := by
  have hzone : Printed ("zone", "b") "zone = b " :=
    ⟨['z', 'o', 'n', 'e', ' '], [' ', 'b', ' '], ⟨[], [' '], by decide, by decide, rfl⟩,
      ⟨[' '], [' '], by decide, by decide, rfl⟩, rfl⟩
  have htier : Printed ("tier", "x") " tier=x" :=
    ⟨[' ', 't', 'i', 'e', 'r'], ['x'], ⟨[' '], [], by decide, by decide, rfl⟩, ⟨[], [], by decide, by decide, rfl⟩, rfl⟩
  have hprintable : ∀ label ∈ [("tier", "x"), ("zone", "b")], Printable label :=
    List.forall_mem_cons.2 ⟨by decide, List.forall_mem_singleton.2 (by decide)⟩
  have hsome : ¬ Blank "zone=a,b,=c".toList := by decide
  refine ⟨parse_exactly.2.2 (.ofList [("tier", "x"), ("zone", "b")]) [("zone", "b"), ("tier", "x")] ["zone = b ", " tier=x"]
    hprintable (.swap _ _ _) (.cons hzone (.cons htier .nil)), hsome, ?_⟩
  obtain ⟨pieces, hpieces, _, _, herror⟩ := parse_exactly.2.1 "zone=a,b,=c" hsome
  have hsplit : pieces = ["zone=a", "b", "=c"] := (pieces_iff.1 hpieces).symm.trans (by decide)
  exact hsplit ▸ (herror (.invalidPair "b")).1 (by decide)

end VolumeDriver.Labels
