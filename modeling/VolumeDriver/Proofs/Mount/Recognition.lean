import VolumeDriver.Proofs.Mount.Table

/-!
# Which mounts are recognised

The system writes blanks and backslashes in devices and mount points by their octal codes, and any other character as it is. What is
read are the codes themselves, and a field ends at any white space. So the mounts at each path are recognised exactly if there is
neither white space nor a backslash in any device or mount point of the table (`recognised_iff`): one such mount anywhere is enough
to have a path taken for free, or the whole table refused.
-/

namespace VolumeDriver

open Text

/-- There is neither white space nor a backslash among the characters. -/
def Text.Verbatim (cs : List Char) : Prop := Unbroken cs ∧ '\\' ∉ cs

instance (cs : List Char) : Decidable (Verbatim cs) := inferInstanceAs (Decidable (_ ∧ _))

namespace MountTable

variable {e : MountEntry} {entries parsed : List MountEntry} {cs : List Char}

/-! ## How devices and mount points are written -/

/-- A character is written as it is, or by four characters. -/
theorem escapeField_cases (c : Char) : escapeField c = [c] ∧ c ≠ '\\' ∨ (escapeField c).length = 4 := by
  unfold escapeField
  split
  · exact Or.inr rfl
  · split
    · exact Or.inr rfl
    · split
      · exact Or.inr rfl
      · split
        · exact Or.inr rfl
        · rename_i hc
          exact Or.inl ⟨rfl, hc⟩

/-- A character that is neither white space nor a backslash is written as it is. -/
theorem escapeField_of_ne {c : Char} (hblank : isBlank c = false) (hc : c ≠ '\\') : escapeField c = [c] := by
  have hne : ∀ d, isBlank d = true → c ≠ d := fun d hd h => by rw [h, hd] at hblank; cases hblank
  rw [escapeField, if_neg (hne ' ' rfl), if_neg (hne '\t' rfl), if_neg (hne '\n' rfl), if_neg hc]

/-- No text gets shorter when it is written. -/
theorem length_le_escape (cs : List Char) : cs.length ≤ (cs.flatMap escapeField).length := by
  induction cs with
  | nil => exact Nat.le_refl _
  | cons c cs ih =>
    rw [List.flatMap_cons, List.length_append, List.length_cons]
    rcases escapeField_cases c with ⟨hsame, _⟩ | hfour
    · rw [hsame, List.length_singleton]
      omega
    · omega

/-- A text that grows no longer is written as it is. -/
theorem not_mem_of_escape_length (h : (cs.flatMap escapeField).length ≤ cs.length) : '\\' ∉ cs := by
  induction cs with
  | nil => exact List.not_mem_nil
  | cons c cs ih =>
    have hrest := length_le_escape cs
    rw [List.flatMap_cons, List.length_append, List.length_cons] at h
    rcases escapeField_cases c with ⟨hsame, hc⟩ | hfour
    · rw [hsame, List.length_singleton] at h
      rw [List.mem_cons, not_or]
      exact ⟨hc.symm, ih (by omega)⟩
    · omega

/-- A text without white space and backslashes is written as it is. -/
theorem escape_of_verbatim (h : Verbatim cs) : cs.flatMap escapeField = cs := by
  induction cs with
  | nil => rfl
  | cons c cs ih =>
    obtain ⟨hunbroken, hbackslash⟩ := h
    obtain ⟨hc, hcs⟩ := List.forall_mem_cons.1 hunbroken
    rw [List.mem_cons, not_or] at hbackslash
    rw [List.flatMap_cons, escapeField_of_ne hc (Ne.symm hbackslash.1), ih ⟨hcs, hbackslash.2⟩, List.singleton_append]

/-- A text that was written has no line break in it. -/
theorem not_mem_escape (cs : List Char) : '\n' ∉ cs.flatMap escapeField := by
  intro h
  obtain ⟨c, _, hc⟩ := List.mem_flatMap.1 h
  unfold escapeField at hc
  split at hc
  · exact absurd hc (by decide)
  · split at hc
    · exact absurd hc (by decide)
    · split at hc
      · exact absurd hc (by decide)
      · rename_i hfeed
        split at hc
        · exact absurd hc (by decide)
        · exact hfeed (List.mem_singleton.1 hc).symm

/-- A text without white space has none when it is written. -/
theorem unbroken_escape (h : Unbroken cs) : Unbroken (cs.flatMap escapeField) := by
  intro d hd
  obtain ⟨c, hc, hd⟩ := List.mem_flatMap.1 hd
  by_cases hbackslash : c = '\\'
  · have hcode : Unbroken ['\\', '1', '3', '4'] := by decide
    rw [hbackslash] at hd
    exact hcode d hd
  · rw [escapeField_of_ne (h c hc) hbackslash, List.mem_singleton] at hd
    rw [hd]
    exact h c hc

/-! ## The table as it is written -/

/-- A mount as a table can list it: its device has a name, its mount point is reached from the root, and its type and options are
words. -/
structure Listable (e : MountEntry) : Prop where
  device : e.device.chars ≠ []
  path : e.path.isAbsolute = true
  fsType : e.fsType.toList ≠ [] ∧ Unbroken e.fsType.toList
  options : (joinWith "," e.options).toList ≠ [] ∧ Unbroken (joinWith "," e.options).toList
  single : ∀ option ∈ e.options, ',' ∉ option.toList

/-- A mount with its device and mount point as they are written. -/
def written (e : MountEntry) : MountEntry := { e with device := ⟨escapePath e.device⟩, path := ⟨escapePath e.path⟩ }

/-- The device of a mount is written character by character. -/
theorem written_device (e : MountEntry) : (written e).device.chars = e.device.chars.flatMap escapeField := String.toList_ofList

theorem written_path (e : MountEntry) : (written e).path.chars = e.path.chars.flatMap escapeField := String.toList_ofList

/-- A mount that can be listed has a mount point. -/
theorem Listable.path_ne_nil (h : Listable e) : e.path.chars ≠ [] := by
  intro hnil
  have habsolute := h.path
  rw [Path.isAbsolute, hnil] at habsolute
  cases habsolute

/-- A text that is not empty is written as one that is not empty. -/
theorem escape_ne_nil (h : cs ≠ []) : cs.flatMap escapeField ≠ [] := by
  have hlength := length_le_escape cs
  have hpos := List.length_pos_iff.2 h
  exact List.length_pos_iff.1 (by omega)

/-- Fields with spaces between them are separated. -/
theorem separated_joinWith (fields : List String) (h : fields ≠ []) :
    Separated (fields.map String.toList) (joinWith " " fields).toList := by
  induction fields with
  | nil => exact absurd rfl h
  | cons field fields ih =>
    cases fields with
    | nil => exact .single field.toList
    | cons next fields =>
      have hjoined : (joinWith " " (field :: next :: fields)).toList =
          field.toList ++ ([' '] ++ (joinWith " " (next :: fields)).toList) := by
        simp [joinWith]
      rw [hjoined]
      exact .cons (List.cons_ne_nil _ _) (by simp) (ih (List.cons_ne_nil _ _))

/-- The line of a mount is its fields as they are written, separated. -/
theorem separated_renderEntry (e : MountEntry) : Separated (fieldsOf (written e)) (renderEntry e).toList :=
  separated_joinWith [escapePath e.device, escapePath e.path, e.fsType, joinWith "," e.options, toString e.freq.toInt,
    toString e.pass.toInt] (List.cons_ne_nil _ _)

/-- A mount without white space in its device and mount point is printed. -/
theorem Listable.printable (h : Listable e) (hdevice : Unbroken e.device.chars) (hpath : Unbroken e.path.chars) : Printable (written e) where
  device := by
    rw [written_device]
    exact ⟨escape_ne_nil h.device, unbroken_escape hdevice⟩
  path := by
    rw [written_path]
    exact ⟨escape_ne_nil h.path_ne_nil, unbroken_escape hpath⟩
  fsType := h.fsType
  options := h.options
  single := h.single

/-- The line of a mount is one line, whatever is in its device and mount point. -/
theorem Listable.single_line (h : Listable e) :
    '\n' ∉ (renderEntry e).toList ∧ (renderEntry e).toList.getLast? ≠ some '\r' ∧ ¬ Blank (renderEntry e).toList := by
  have hpass := unbroken_of_numeral (numeral_toString e.pass.toInt)
  obtain ⟨front, hfront⟩ : ∃ front : String, (renderEntry e).toList = front.toList ++ (toString e.pass.toInt).toList :=
    ⟨escapePath e.device ++ " " ++ escapePath e.path ++ " " ++ e.fsType ++ " " ++ joinWith "," e.options ++ " " ++
      toString e.freq.toInt ++ " ", by simp [renderEntry, joinWith]⟩
  refine ⟨?_, ?_, ?_⟩
  · have hfeed : ∀ cs : List Char, Unbroken cs → '\n' ∉ cs := fun cs hcs hmem => absurd (hcs _ hmem) (by decide)
    refine (separated_renderEntry e).not_mem ?_ (by decide) (by decide)
    simp only [fieldsOf, List.forall_mem_cons, written_device, written_path]
    exact ⟨not_mem_escape _, not_mem_escape _, hfeed _ h.fsType.2, hfeed _ h.options.2,
      hfeed _ (unbroken_of_numeral (numeral_toString _)).2, hfeed _ hpass.2, by simp⟩
  · intro hreturn
    rw [hfront, List.getLast?_append_of_ne_nil _ hpass.1] at hreturn
    exact absurd (hpass.2 _ (List.mem_of_getLast? hreturn)) (by decide)
  · intro hblank
    obtain ⟨c, hc⟩ := List.exists_mem_of_ne_nil _ hpass.1
    have hword := hpass.2 c hc
    rw [hblank c (by rw [hfront]; exact List.mem_append_right _ hc)] at hword
    cases hword

/-- A table of mounts has a line for each of them. -/
theorem linesOf_render (h : ∀ e ∈ entries, Listable e) :
    linesOf (render entries).toList = entries.map fun e => (renderEntry e).toList := by
  induction entries with
  | nil => rfl
  | cons e entries ih =>
    obtain ⟨he, h⟩ := List.forall_mem_cons.1 h
    obtain ⟨hfeed, hreturn, _⟩ := he.single_line
    have htext : (render (e :: entries)).toList = (renderEntry e).toList ++ '\n' :: (render entries).toList := by
      simp [render]
    rw [htext, linesOf_append hfeed, dropReturn_of_ne hreturn, ih h, List.map_cons]

/-- The table is read as the mounts that its lines tell. -/
theorem parse_render_ok_iff (h : ∀ e ∈ entries, Listable e) :
    parse (render entries) = .ok parsed ↔ List.Forall₂ Tells parsed (entries.map fun e => (renderEntry e).toList) := by
  have hsome : (entries.map fun e => (renderEntry e).toList).filter (¬ Blank ·) = entries.map fun e => (renderEntry e).toList := by
    refine List.filter_eq_self.2 fun line hline => ?_
    obtain ⟨e, he, rfl⟩ := List.mem_map.1 hline
    simpa using (h e he).single_line.2.2
  rw [parse_ok_iff]
  constructor
  · rintro ⟨lines, hlines, htells⟩
    rwa [← lines_iff.1 hlines, linesOf_render h, hsome] at htells
  · intro htells
    exact ⟨_, lines_iff.2 (linesOf_render h), by rwa [hsome]⟩

/-- Without white space in devices and mount points, the mounts are read as they are written. -/
theorem parse_render_of_unbroken (h : ∀ e ∈ entries, Listable e)
    (hunbroken : ∀ e ∈ entries, Unbroken e.device.chars ∧ Unbroken e.path.chars) :
    parse (render entries) = .ok (entries.map written) := by
  rw [parse_render_ok_iff h, List.forall₂_map_left_iff, List.forall₂_map_right_iff, List.forall₂_same]
  intro e he
  obtain ⟨hdevice, hpath⟩ := hunbroken e he
  exact ((h e he).printable hdevice hpath).tells (separated_renderEntry e)

/-- The device and the mount point that a line tells are words. -/
theorem Tells.unbroken {line : List Char} (h : Tells e line) : Unbroken e.device.chars ∧ Unbroken e.path.chars := by
  obtain ⟨freq, pass, hwords, _⟩ := h
  exact ⟨(hwords.unbroken _ (by simp)).2, (hwords.unbroken _ (by simp)).2⟩

/-! ## Which mounts are found -/

/-- Every path is told its mounts from what was read of a table: whether it is free, and the device that is mounted there. -/
structure Recognised (entries parsed : List MountEntry) : Prop where
  mounts : ∀ p, parsed.filter (·.matchesPath p) = entries.filter (·.path.same p)
  isFree : ∀ p, parsed.any (·.matchesPath p) = entries.any (·.path.same p)
  device : ∀ p, deviceAt parsed p = deviceAt entries p

/-- A path without a backslash is not that of a removed directory. -/
theorem same_deletedForm {q : Path} (h : '\\' ∉ q.chars) (p : Path) : q.same (MountEntry.deletedForm p) = false := by
  refine Bool.eq_false_iff.2 fun hsame => h ?_
  have hcomponents : q.components = (MountEntry.deletedForm p).components := of_decide_eq_true hsame
  -- the backslash is in a name of the deleted form, so it would be in a name of the other path
  have hbackslash : '\\' ∈ (MountEntry.deletedForm p).chars := by
    simp [MountEntry.deletedForm, Path.chars]
  obtain ⟨piece, hpiece, hmem⟩ := (mem_splitAtChar_iff (show '\\' ≠ '/' by decide)).2 hbackslash
  have hfound := Path.name_mem_components hpiece (Path.ofPiece_of_mem (by decide) hmem)
  rw [← hcomponents] at hfound
  exact (mem_splitAtChar_iff (by decide)).1 ⟨piece, (Path.mem_splitAtChar_of_name_mem hfound).1, hmem⟩

/-- A mount without white space and backslashes in its names is written as it is. -/
theorem written_of_verbatim (hdevice : Verbatim e.device.chars) (hpath : Verbatim e.path.chars) : written e = e := by
  have hsame : ∀ p : Path, Verbatim p.chars → (⟨escapePath p⟩ : Path) = p := fun p hp => by
    rw [escapePath, escape_of_verbatim hp]
    simp [Path.chars]
  rw [written, hsame _ hdevice, hsame _ hpath]

/-- Every path is told its mounts from a table whose names need no escape. -/
theorem recognised_of_verbatim (h : ∀ e ∈ entries, Verbatim e.path.chars) : Recognised entries entries := by
  have hmatches : ∀ e ∈ entries, ∀ p, e.matchesPath p = e.path.same p := by
    intro e he p
    rw [MountEntry.matchesPath, same_deletedForm (h e he).2, Bool.or_false]
  refine ⟨fun p => List.filter_congr fun e he => hmatches e he p, fun p => ?_, fun p => rfl⟩
  rw [Bool.eq_iff_iff, List.any_eq_true, List.any_eq_true]
  exact exists_congr fun e => and_congr_right fun he => by rw [hmatches e he p]

/-- Whatever is read back can have been written only if it is written as it is. -/
theorem verbatim_of_recognised (hlistable : ∀ e ∈ entries, Listable e) (hparsed : parse (render entries) = .ok parsed)
    (h : ∀ p, parsed.filter (·.matchesPath p) = entries.filter (·.path.same p)) :
    ∀ e ∈ entries, Verbatim e.device.chars ∧ Verbatim e.path.chars := by
  have hmem : ∀ e ∈ entries, e ∈ parsed := by
    intro e he
    have hfound : e ∈ entries.filter (·.path.same e.path) := List.mem_filter.2 ⟨he, decide_eq_true rfl⟩
    rw [← h e.path] at hfound
    exact (List.mem_filter.1 hfound).1
  have hunbroken : ∀ e ∈ entries, Unbroken e.device.chars ∧ Unbroken e.path.chars := by
    have htells := (parse_render_ok_iff hlistable).1 hparsed
    have hread : (∀ e ∈ parsed, Unbroken e.device.chars ∧ Unbroken e.path.chars) ∧ _ :=
      (List.forall₂_and_left _ _).1 (htells.imp fun _ _ htell => ⟨htell.unbroken, htell⟩)
    exact fun e he => hread.1 e (hmem e he)
  have hwritten : parsed = entries.map written := Except.ok.inj (hparsed.symm.trans (parse_render_of_unbroken hlistable hunbroken))
  -- what is written for another mount is no shorter than that mount, and no longer only if it is written as it is
  intro e he
  induction hsize : e.device.chars.length + e.path.chars.length using Nat.strongRecOn generalizing e with
  | _ size ih =>
    have hread := hmem e he
    rw [hwritten] at hread
    obtain ⟨other, hother, rfl⟩ := List.mem_map.1 hread
    rw [written_device, written_path] at hsize
    have hdevice := length_le_escape other.device.chars
    have hpath := length_le_escape other.path.chars
    have hverbatim : Verbatim other.device.chars ∧ Verbatim other.path.chars := by
      by_cases hless : other.device.chars.length + other.path.chars.length < size
      · exact ih _ hless other hother rfl
      · obtain ⟨hd, hp⟩ := hunbroken other hother
        exact ⟨⟨hd, not_mem_of_escape_length (by omega)⟩, hp, not_mem_of_escape_length (by omega)⟩
    rwa [written_of_verbatim hverbatim.1 hverbatim.2]

/-- The mounts at every path are recognised in the table that the system writes exactly if there is neither white space nor a
backslash in any device or mount point. -/
theorem recognised_iff (h : ∀ e ∈ entries, Listable e) :
    (∃ parsed, parse (render entries) = .ok parsed ∧ Recognised entries parsed) ↔
      ∀ e ∈ entries, Verbatim e.device.chars ∧ Verbatim e.path.chars := by
  constructor
  · rintro ⟨parsed, hparsed, hrecognised⟩
    exact verbatim_of_recognised h hparsed hrecognised.mounts
  · intro hverbatim
    have hwritten : entries.map written = entries := by
      rw [List.map_congr_left fun e he => written_of_verbatim (hverbatim e he).1 (hverbatim e he).2, List.map_id']
    refine ⟨entries, ?_, recognised_of_verbatim fun e he => (hverbatim e he).2⟩
    rw [parse_render_of_unbroken h fun e he => ⟨(hverbatim e he).1.1, (hverbatim e he).2.1⟩, hwritten]

/-- A mount whose name is not of ASCII characters alone. -/
def umlautMount : MountEntry := ⟨⟨"/dev/sdb"⟩, ⟨"/mnt/grün"⟩, "ext4", ["rw"], 0, 0⟩

/-- The mount at `/mnt/grün`, which a table lists and which is recognised. -/
theorem recognised_umlaut :
    (∀ e ∈ [umlautMount], Listable e) ∧ ∃ parsed, parse (render [umlautMount]) = .ok parsed ∧ Recognised [umlautMount] parsed := by
  have hlistable : ∀ e ∈ [umlautMount], Listable e := by
    simp only [List.mem_singleton, forall_eq]
    constructor <;> decide
  refine ⟨hlistable, (recognised_iff hlistable).2 ?_⟩
  simp only [List.mem_singleton, forall_eq]
  decide

/-- A mount whose name has a no-break space in it, which the system writes as it is. -/
def hardSpaceMount : MountEntry := ⟨⟨"/dev/sdb"⟩, ⟨"/mnt/a\u00a0b"⟩, "ext4", ["rw"], 0, 0⟩

/-- A mount whose name has a space in it. -/
def spaceMount : MountEntry := ⟨⟨"/dev/sdb"⟩, ⟨"/mnt/a b"⟩, "ext4", ["rw"], 0, 0⟩

/-- The no-break space ends a field, so the table is refused; the space is read as its code, so nothing is mounted where it is. -/
theorem mounts_missed :
    (∀ e ∈ [hardSpaceMount, spaceMount], Listable e) ∧
      parse (render [hardSpaceMount]) = .error (.other "wrong number of fields (expected 6, got 7)") ∧
      parse (render [spaceMount]) = .ok [{ spaceMount with path := ⟨"/mnt/a\\040b"⟩ }] ∧
      ¬ ∃ parsed, parse (render [spaceMount]) = .ok parsed ∧ Recognised [spaceMount] parsed := by
  have hspace : parse (render [spaceMount]) = .ok [{ spaceMount with path := ⟨"/mnt/a\\040b"⟩ }] := rfl
  refine ⟨?_, rfl, hspace, ?_⟩
  · simp only [List.mem_cons, List.not_mem_nil, or_false, forall_eq_or_imp, forall_eq]
    constructor <;> constructor <;> decide
  · rintro ⟨parsed, hparsed, hrecognised⟩
    cases hspace.symm.trans hparsed
    have hlisted := hrecognised.isFree ⟨"/mnt/a b"⟩
    revert hlisted
    decide

end MountTable

end VolumeDriver
