import VolumeDriver.Mount.Table
import VolumeDriver.Proofs.Decimal
import VolumeDriver.Proofs.Text.Words
import Mathlib.Data.UInt
import Mathlib.Data.List.Forall2

/-!
# Reading the mount table

A line tells a mount if it has six words, of which the last two are numerals of 64-bit numbers (`Tells`). Bytes are read as a mount
table exactly if they are the characters of lines that are blank or tell a mount, and the entries are those mounts in the order of the
lines. So entries printed in any way that keeps their fields apart are read back (`Printed`).
-/

namespace VolumeDriver

open Text

namespace MountTable

variable {e : MountEntry} {entries : List MountEntry} {line text : List Char} {lines : List (List Char)}

/-! ## Lines -/

/-- A line of six words, the last two of which are numerals of 64-bit numbers. -/
def WellFormed (line : List Char) : Prop :=
  ∃ device path fsType options freq pass, Words line [device, path, fsType, options, freq, pass] ∧
    (∃ n : Int64, Numeral freq n.toInt) ∧ ∃ n : Int64, Numeral pass n.toInt

/-- A line tells a mount: its words are the fields of the mount, the options with commas between them. -/
def Tells (e : MountEntry) (line : List Char) : Prop :=
  ∃ freq pass, Words line [e.device.chars, e.path.chars, e.fsType.toList, (joinWith "," e.options).toList, freq, pass] ∧
    e.options ≠ [] ∧ (∀ option ∈ e.options, ',' ∉ option.toList) ∧ Numeral freq e.freq.toInt ∧ Numeral pass e.pass.toInt

/-- A field is read as a number exactly if it is a numeral of it. -/
theorem readNumber_ok_iff {field : String} {cs : List Char} {n : Int64} : readNumber field cs = .ok n ↔ Numeral cs n.toInt := by
  rw [← readInt64_ok_iff, readNumber]
  cases readInt64 cs <;> simp

/-- A line is read as the mount that it tells, and as nothing else. -/
theorem entryOfFields_ok_iff : entryOfFields (wordsOf line) = .ok e ↔ Tells e line := by
  constructor
  · intro h
    unfold entryOfFields at h
    split at h
    · rename_i device path fsType options freq pass hwords
      cases hfreq : readNumber "freq" freq with
      | error problem =>
        rw [hfreq] at h
        cases h
      | ok n =>
        cases hpass : readNumber "pass" pass with
        | error problem =>
          rw [hfreq, hpass] at h
          cases h
        | ok m =>
          rw [hfreq, hpass] at h
          obtain rfl := Except.ok.inj h
          obtain ⟨hsome, hcomma, hjoin⟩ := splitAtChar_iff.1 (Eq.refl ((splitAtChar ',' options).map String.ofList))
          refine ⟨freq, pass, words_iff.2 ?_, hsome, hcomma, readNumber_ok_iff.1 hfreq, readNumber_ok_iff.1 hpass⟩
          have hoptions : (joinWith "," ((splitAtChar ',' options).map String.ofList)).toList = options := hjoin
          rw [hwords, hoptions]
          simp [Path.chars]
    · cases h
  · rintro ⟨freq, pass, hwords, hsome, hcomma, hfreq, hpass⟩
    have hoptions : (splitAtChar ',' (joinWith "," e.options).toList).map String.ofList = e.options :=
      splitAtChar_iff.2 ⟨hsome, hcomma, rfl⟩
    rw [words_iff.1 hwords, entryOfFields, readNumber_ok_iff.2 hfreq, readNumber_ok_iff.2 hpass]
    show Except.ok _ = Except.ok e
    rw [hoptions]
    simp [Path.chars]

/-- A line is well-formed exactly if it tells a mount. -/
theorem wellFormed_iff : WellFormed line ↔ ∃ e, Tells e line := by
  constructor
  · rintro ⟨device, path, fsType, options, freq, pass, hwords, ⟨n, hfreq⟩, m, hpass⟩
    obtain ⟨hsome, hcomma, hjoin⟩ := splitAtChar_iff.1 (Eq.refl ((splitAtChar ',' options).map String.ofList))
    have hoptions : (joinWith "," ((splitAtChar ',' options).map String.ofList)).toList = options := hjoin
    refine ⟨⟨⟨String.ofList device⟩, ⟨String.ofList path⟩, String.ofList fsType, (splitAtChar ',' options).map String.ofList, n, m⟩,
      freq, pass, ?_, hsome, hcomma, hfreq, hpass⟩
    dsimp only
    rw [hoptions]
    simpa [Path.chars] using hwords
  · rintro ⟨e, freq, pass, hwords, _, _, hfreq, hpass⟩
    exact ⟨_, _, _, _, freq, pass, hwords, ⟨_, hfreq⟩, _, hpass⟩

/-! ## Tables -/

/-- A list is made element by element, and not at all if one element fails. -/
theorem mapM_ok_iff {α β ε : Type} {f : α → Except ε β} {xs : List α} {ys : List β} :
    xs.mapM f = .ok ys ↔ List.Forall₂ (fun y x => f x = .ok y) ys xs := by
  induction xs generalizing ys with
  | nil =>
    rw [List.mapM_nil, List.forall₂_nil_right_iff]
    exact ⟨fun h => (Except.ok.inj h).symm, fun h => h ▸ rfl⟩
  | cons x xs ih =>
    rw [List.mapM_cons, List.forall₂_cons_right_iff]
    cases hx : f x with
    | error problem =>
      refine iff_of_false (fun h => by cases h) ?_
      rintro ⟨y, rest, hy, _⟩
      cases hy
    | ok y =>
      cases hxs : xs.mapM f with
      | error problem =>
        refine iff_of_false (fun h => by cases h) ?_
        rintro ⟨z, rest, _, hrest, _⟩
        rw [← ih, hxs] at hrest
        cases hrest
      | ok rest =>
        constructor
        · intro h
          exact ⟨y, rest, rfl, ih.1 hxs, (Except.ok.inj h).symm⟩
        · rintro ⟨z, others, hz, hothers, rfl⟩
          rw [← ih, hxs] at hothers
          cases hz
          cases hothers
          rfl

/-- A text is read as the mounts that its lines tell. -/
theorem parse_ok_iff {s : String} :
    parse s = .ok entries ↔ ∃ lines, Lines s.toList lines ∧ List.Forall₂ Tells entries (lines.filter (¬ Blank ·)) := by
  have hfilter : (linesOf s.toList).filter (fun line => !line.all isBlank) = (linesOf s.toList).filter (¬ Blank ·) :=
    List.filter_congr fun line _ => by rw [all_isBlank, decide_not]
  have hread : parse s = .ok entries ↔ List.Forall₂ Tells entries ((linesOf s.toList).filter (¬ Blank ·)) := by
    rw [parse, ofLines, hfilter, mapM_ok_iff]
    simp only [entryOfFields_ok_iff]
  rw [hread]
  constructor
  · exact fun h => ⟨_, lines_linesOf _, h⟩
  · rintro ⟨lines, hlines, h⟩
    rwa [lines_iff.1 hlines]

/-- Bytes are read as mounts exactly if they are the encoding of a text that is. -/
theorem parseBytes_ok_iff {bytes : ByteArray} :
    parseBytes bytes = .ok entries ↔ ∃ text : List Char, bytes = text.utf8Encode ∧ parse (String.ofList text) = .ok entries := by
  rw [parseBytes, String.fromUTF8?]
  by_cases hvalid : bytes.IsValidUTF8
  · rw [dif_pos hvalid]
    obtain ⟨text, rfl⟩ := hvalid
    have hsame : String.fromUTF8 text.utf8Encode ⟨text, rfl⟩ = String.ofList text := rfl
    dsimp only
    rw [hsame]
    constructor
    · exact fun h => ⟨text, rfl, h⟩
    · rintro ⟨others, hothers, h⟩
      have hbytes : (String.ofList text).toByteArray = (String.ofList others).toByteArray := by
        rw [String.toByteArray_ofList, String.toByteArray_ofList, hothers]
      rwa [String.toByteArray_inj.1 hbytes]
  · rw [dif_neg hvalid]
    refine iff_of_false (fun h => by cases h) ?_
    rintro ⟨text, rfl, _⟩
    exact hvalid ⟨text, rfl⟩

/-- Lines tell entries if each of them is well formed. -/
theorem tells_iff_wellFormed : (∃ entries, List.Forall₂ Tells entries lines) ↔ ∀ line ∈ lines, WellFormed line := by
  simp only [exists_forall₂_iff, wellFormed_iff]

/-! ## Printed entries -/

/-- Fields with spaces and tabs between them. -/
inductive Separated : List (List Char) → List Char → Prop where
  | single (field : List Char) : Separated [field] field
  | cons {field gap line : List Char} {fields : List (List Char)} (hsome : gap ≠ []) (hgap : ∀ c ∈ gap, c = ' ' ∨ c = '\t')
      (hrest : Separated fields line) : Separated (field :: fields) (field ++ (gap ++ line))

/-- The fields of a mount as they are printed. -/
def fieldsOf (e : MountEntry) : List (List Char) :=
  [e.device.chars, e.path.chars, e.fsType.toList, (joinWith "," e.options).toList, (toString e.freq.toInt).toList,
    (toString e.pass.toInt).toList]

/-- Lines of printed mounts, with any blank lines before, between and behind them. The last line may have no end. -/
inductive Printed : List MountEntry → List Char → Prop where
  | done {rest : List Char} (hrest : Blank rest) (hfeed : '\n' ∉ rest) : Printed [] rest
  | last {e : MountEntry} {line : List Char} (hline : Separated (fieldsOf e) line) : Printed [e] line
  | blank {line text : List Char} {entries : List MountEntry} (hline : Blank line) (hfeed : '\n' ∉ line)
      (hrest : Printed entries text) : Printed entries (line ++ '\n' :: text)
  | entry {e : MountEntry} {line text : List Char} {entries : List MountEntry} (hline : Separated (fieldsOf e) line)
      (hrest : Printed entries text) : Printed (e :: entries) (line ++ '\n' :: text)

/-- A mount whose fields are words when it is printed. -/
structure Printable (e : MountEntry) : Prop where
  device : e.device.chars ≠ [] ∧ Unbroken e.device.chars
  path : e.path.chars ≠ [] ∧ Unbroken e.path.chars
  fsType : e.fsType.toList ≠ [] ∧ Unbroken e.fsType.toList
  options : (joinWith "," e.options).toList ≠ [] ∧ Unbroken (joinWith "," e.options).toList
  single : ∀ option ∈ e.options, ',' ∉ option.toList

/-- Separated fields that are words are the words of the line. -/
theorem Separated.words {fields : List (List Char)} (h : Separated fields line) (hfields : ∀ field ∈ fields, field ≠ [] ∧ Unbroken field) :
    Words line fields := by
  induction h with
  | single field =>
    obtain ⟨hsome, hfield⟩ := hfields field List.mem_cons_self
    have hword := Words.word blank_nil hsome hfield (by simp) (.blank blank_nil)
    rwa [List.nil_append, List.append_nil] at hword
  | @cons field gap line fields hsome hgap _ ih =>
    obtain ⟨⟨hfield, hword⟩, hfields⟩ := List.forall_mem_cons.1 hfields
    have hblank : Blank gap := fun c hc => by
      rcases hgap c hc with rfl | rfl <;> rfl
    refine .word blank_nil hfield hword (fun c hc => ?_) ((ih hfields).append_blank hblank)
    rw [List.head?_append_of_ne_nil _ hsome] at hc
    exact hblank c (List.mem_of_head? hc)

/-- What is in no field, and neither a space nor a tab, is not in the line. -/
theorem Separated.not_mem {fields : List (List Char)} (h : Separated fields line) {c : Char} (hfields : ∀ field ∈ fields, c ∉ field)
    (hspace : c ≠ ' ') (htab : c ≠ '\t') : c ∉ line := by
  induction h with
  | single field => exact hfields field List.mem_cons_self
  | @cons field gap line fields _ hgap _ ih =>
    obtain ⟨hfield, hfields⟩ := List.forall_mem_cons.1 hfields
    simp only [List.mem_append, not_or]
    exact ⟨hfield, fun hc => (hgap c hc).elim hspace htab, ih hfields⟩

/-- No digit is white space. -/
theorem isBlank_of_isDigit {c : Char} (h : c.isDigit = true) : isBlank c = false := by
  have hleast : 48 ≤ c.toNat := (Char.isDigit_iff_toNat.1 h).1
  have hmost : c.toNat ≤ 57 := (Char.isDigit_iff_toNat.1 h).2
  simp only [isBlank, Bool.or_eq_false_iff, Bool.and_eq_false_iff, decide_eq_false_iff_not]
  omega

/-- A numeral is a word. -/
theorem unbroken_of_numeral {cs : List Char} {n : Int} (h : Numeral cs n) : cs ≠ [] ∧ Unbroken cs := by
  have hword : ∀ ds : List Char, (∀ d ∈ ds, d.isDigit = true) → Unbroken ds := fun ds hds d hd => isBlank_of_isDigit (hds d hd)
  cases h with
  | digits hsome hdigits => exact ⟨hsome, hword _ hdigits⟩
  | plus hsome hdigits => exact ⟨List.cons_ne_nil _ _, List.forall_mem_cons.2 ⟨rfl, hword _ hdigits⟩⟩
  | minus hsome hdigits => exact ⟨List.cons_ne_nil _ _, List.forall_mem_cons.2 ⟨rfl, hword _ hdigits⟩⟩

/-- The fields of a printable mount are words. -/
theorem Printable.words (h : Printable e) : ∀ field ∈ fieldsOf e, field ≠ [] ∧ Unbroken field := by
  simp only [fieldsOf, List.forall_mem_cons]
  exact ⟨h.device, h.path, h.fsType, h.options, unbroken_of_numeral (numeral_toString _),
    unbroken_of_numeral (numeral_toString _), by simp⟩

/-- A printed line tells the mount that was printed. -/
theorem Printable.tells (h : Printable e) (hline : Separated (fieldsOf e) line) : Tells e line := by
  refine ⟨_, _, hline.words h.words, ?_, h.single, numeral_toString _, numeral_toString _⟩
  intro hnone
  exact h.options.1 (by rw [hnone]; rfl)

/-- There is neither a line feed nor a carriage return in a printed line. -/
theorem Printable.single_line (h : Printable e) (hline : Separated (fieldsOf e) line) : '\n' ∉ line ∧ '\r' ∉ line := by
  have hwords := h.words
  refine ⟨hline.not_mem (fun field hfield hmem => ?_) (by decide) (by decide),
    hline.not_mem (fun field hfield hmem => ?_) (by decide) (by decide)⟩
  · exact absurd ((hwords field hfield).2 _ hmem) (by decide)
  · exact absurd ((hwords field hfield).2 _ hmem) (by decide)

/-- A line that tells a mount is not blank. -/
theorem Tells.not_blank (h : Tells e line) : ¬ Blank line := by
  obtain ⟨_, _, hwords, _⟩ := h
  exact hwords.not_blank

/-- Printed lines tell the mounts that were printed. -/
theorem Printed.tells (h : Printed entries text) (hentries : ∀ e ∈ entries, Printable e) :
    ∃ lines, Lines text lines ∧ List.Forall₂ Tells entries (lines.filter (¬ Blank ·)) := by
  induction h with
  | @done rest hrest hfeed =>
    refine ⟨linesOf rest, lines_linesOf rest, ?_⟩
    rw [linesOf_of_not_mem hfeed]
    split
    · exact .nil
    · rw [List.filter_cons_of_neg (by simpa using hrest)]
      exact .nil
  | @last e line hline =>
    have he := hentries e List.mem_cons_self
    have htells := he.tells hline
    refine ⟨[line], .last (fun hnil => htells.not_blank (hnil ▸ blank_nil)) (he.single_line hline).1, ?_⟩
    rw [List.filter_cons_of_pos (by simpa using htells.not_blank)]
    exact .cons htells .nil
  | blank hline hfeed _ ih =>
    obtain ⟨lines, hlines, htells⟩ := ih hentries
    have hblank : Blank (dropReturn _) := fun c hc => hline c (mem_of_mem_dropReturn hc)
    refine ⟨_, hlines.cons hfeed, ?_⟩
    rwa [List.filter_cons_of_neg (by simpa using hblank)]
  | @entry e line text entries hline _ ih =>
    obtain ⟨he, hentries⟩ := List.forall_mem_cons.1 hentries
    have htells := he.tells hline
    obtain ⟨hfeed, hreturn⟩ := he.single_line hline
    obtain ⟨lines, hlines, hrest⟩ := ih hentries
    refine ⟨line :: lines, .feed hfeed (fun hlast => hreturn (List.mem_of_getLast? hlast)) hlines, ?_⟩
    rw [List.filter_cons_of_pos (by simpa using htells.not_blank)]
    exact .cons htells hrest

/-- Bytes are read as a mount table exactly if they are the characters of lines that are blank or well-formed. The entries are then what
the lines tell, in their order, and entries that are printed are read back. -/
theorem parseBytes_exact (bytes : ByteArray) (entries : List MountEntry) :
    ((∃ entries, parseBytes bytes = .ok entries) ↔
      ∃ text lines, bytes = text.utf8Encode ∧ Lines text lines ∧ ∀ line ∈ lines, ¬ Blank line → WellFormed line) ∧
    (parseBytes bytes = .ok entries ↔
      ∃ text lines, bytes = text.utf8Encode ∧ Lines text lines ∧ List.Forall₂ Tells entries (lines.filter (¬ Blank ·))) ∧
    ((∀ e ∈ entries, Printable e) → ∀ text, bytes = text.utf8Encode → Printed entries text → parseBytes bytes = .ok entries) := by
  have hread : ∀ entries, parseBytes bytes = .ok entries ↔
      ∃ text lines, bytes = text.utf8Encode ∧ Lines text lines ∧ List.Forall₂ Tells entries (lines.filter (¬ Blank ·)) := by
    intro entries
    rw [parseBytes_ok_iff]
    refine exists_congr fun text => ?_
    rw [parse_ok_iff, String.toList_ofList, exists_and_left]
  refine ⟨?_, hread entries, fun hentries text hbytes hprinted => ?_⟩
  · constructor
    · rintro ⟨entries, h⟩
      obtain ⟨text, lines, hbytes, hlines, htells⟩ := (hread entries).1 h
      refine ⟨text, lines, hbytes, hlines, fun line hline hsome => ?_⟩
      exact tells_iff_wellFormed.1 ⟨entries, htells⟩ line (List.mem_filter.2 ⟨hline, by simpa using hsome⟩)
    · rintro ⟨text, lines, hbytes, hlines, hwellFormed⟩
      obtain ⟨entries, htells⟩ := tells_iff_wellFormed.2 fun line (hline : line ∈ lines.filter (¬ Blank ·)) =>
        hwellFormed line (List.mem_filter.1 hline).1 (by simpa using (List.mem_filter.1 hline).2)
      exact ⟨entries, (hread entries).2 ⟨text, lines, hbytes, hlines, htells⟩⟩
  · obtain ⟨lines, hlines, htells⟩ := hprinted.tells hentries
    exact (hread entries).2 ⟨text, lines, hbytes, hlines, htells⟩

/-- A mount that is checked by hand. -/
def spacedMount : MountEntry := ⟨⟨"/dev/sdb"⟩, ⟨"/mnt"⟩, "ext4", ["rw", "noatime"], 0, -1⟩

/-- The mount behind a blank line, in a line without an end. -/
def spacedText : List Char :=
  ['\t'] ++ '\n' :: ("/dev/sdb".toList ++ ([' ', ' '] ++ ("/mnt".toList ++ (['\t'] ++ ("ext4".toList ++ ([' '] ++
    ("rw,noatime".toList ++ ([' '] ++ ("0".toList ++ ([' ', '\t'] ++ "-1".toList))))))))))

/-- The mount that is checked by hand, behind a blank line and in a line without an end. -/
theorem parseBytes_spaced :
    (∀ e ∈ [spacedMount], Printable e) ∧ Printed [spacedMount] spacedText ∧ parseBytes spacedText.utf8Encode = .ok [spacedMount] := by
  have hprintable : ∀ e ∈ [spacedMount], Printable e := by
    simp only [List.mem_singleton, forall_eq]
    constructor <;> decide
  have hgap : ∀ gap ∈ [[' ', ' '], ['\t'], [' '], [' ', '\t']], gap ≠ [] ∧ ∀ c ∈ gap, c = ' ' ∨ c = '\t' := by simp
  have hprinted : Printed [spacedMount] spacedText := by
    refine .blank (by decide) (by decide) (.last ?_)
    exact .cons (hgap [' ', ' '] (by simp)).1 (hgap _ (by simp)).2 (.cons (hgap ['\t'] (by simp)).1 (hgap _ (by simp)).2
      (.cons (hgap [' '] (by simp)).1 (hgap _ (by simp)).2 (.cons (hgap [' '] (by simp)).1 (hgap _ (by simp)).2
        (.cons (hgap [' ', '\t'] (by simp)).1 (hgap _ (by simp)).2 (.single _)))))
  exact ⟨hprintable, hprinted, (parseBytes_exact _ _).2.2 hprintable spacedText rfl hprinted⟩

end MountTable

end VolumeDriver
