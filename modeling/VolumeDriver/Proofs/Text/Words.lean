import Mathlib.Data.List.Forall2
import VolumeDriver.Proofs.Text

/-!
# What a text consists of

The words, the lines and the pieces of a text, described by how the text is put together from them. There is one way only, and the
functions that take a text apart find it (`words_iff`, `lines_iff`, `splitAtChar_iff`).
-/

namespace VolumeDriver

/-- Parts can all be read if each of them can. -/
theorem exists_forall₂_iff {α β : Type} {R : α → β → Prop} {parts : List β} :
    (∃ values, List.Forall₂ R values parts) ↔ ∀ part ∈ parts, ∃ value, R value part := by
  induction parts with
  | nil => simp
  | cons part parts ih =>
    rw [List.forall_mem_cons, ← ih]
    constructor
    · rintro ⟨_, _ | ⟨hvalue, hvalues⟩⟩
      exact ⟨⟨_, hvalue⟩, _, hvalues⟩
    · rintro ⟨⟨value, hvalue⟩, values, hvalues⟩
      exact ⟨value :: values, .cons hvalue hvalues⟩

namespace Text

variable {cs gap line text word : List Char} {words lines : List (List Char)}

/-- There is nothing but white space among the characters. -/
def Blank (cs : List Char) : Prop := ∀ c ∈ cs, isBlank c = true

instance (cs : List Char) : Decidable (Blank cs) :=
  decidable_of_iff (cs.all isBlank = true) (by simp [Blank])

theorem blank_nil : Blank [] := by simp [Blank]

theorem all_isBlank (cs : List Char) : cs.all isBlank = decide (Blank cs) := by
  rw [Bool.eq_iff_iff, List.all_eq_true, decide_eq_true_iff, Blank]

/-! ## Words -/

/-- The words of a text: runs without white space, some white space between two of them and any at both ends. -/
inductive Words : List Char → List (List Char) → Prop where
  | blank {gap : List Char} (hgap : Blank gap) : Words gap []
  | word {gap word rest : List Char} {words : List (List Char)} (hgap : Blank gap) (hsome : word ≠ []) (hword : Unbroken word)
      (hend : ∀ c ∈ rest.head?, isBlank c = true) (hrest : Words rest words) : Words (gap ++ (word ++ rest)) (word :: words)

/-- There is no white space in a word, and no word is empty. -/
theorem Words.unbroken (h : Words cs words) : ∀ word ∈ words, word ≠ [] ∧ Unbroken word := by
  induction h with
  | blank => simp
  | word _ hsome hword _ _ ih => exact List.forall_mem_cons.2 ⟨⟨hsome, hword⟩, ih⟩

/-- White space before a text leaves its words as they are. -/
theorem Words.cons_blank {c : Char} (hc : isBlank c = true) (h : Words cs words) : Words (c :: cs) words := by
  cases h with
  | blank hgap => exact .blank (List.forall_mem_cons.2 ⟨hc, hgap⟩)
  | word hgap hsome hword hend hrest => exact .word (List.forall_mem_cons.2 ⟨hc, hgap⟩) hsome hword hend hrest

/-- Any white space before a text leaves its words as they are. -/
theorem Words.append_blank (hgap : Blank gap) (h : Words cs words) : Words (gap ++ cs) words := by
  induction gap with
  | nil => exact h
  | cons c gap ih =>
    obtain ⟨hc, hgap⟩ := List.forall_mem_cons.1 hgap
    exact (ih hgap).cons_blank hc

/-- A text with a word in it is not blank. -/
theorem Words.not_blank (h : Words cs (word :: words)) : ¬ Blank cs := by
  intro hblank
  cases h with
  | @word gap word rest _ _ hsome hword _ _ =>
    obtain ⟨c, word, rfl⟩ := List.exists_cons_of_ne_nil hsome
    have hc := hblank c (by simp)
    rw [hword c List.mem_cons_self] at hc
    cases hc

/-- White space before a text is not read. -/
theorem wordsOf_cons_of_blank {c : Char} (hc : isBlank c = true) (cs : List Char) : wordsOf (c :: cs) = wordsOf cs := by
  rw [wordsOf.eq_def]
  exact if_pos hc

/-- A character that is not blank is the first of the first word. -/
theorem wordsOf_cons_of_word {c : Char} (hc : isBlank c = false) (cs : List Char) :
    wordsOf (c :: cs) =
      match cs with
      | [] => [[c]]
      | d :: _ =>
        if isBlank d then [c] :: wordsOf cs
        else
          match wordsOf cs with
          | [] => [[c]]
          | w :: ws => (c :: w) :: ws := by
  rw [wordsOf.eq_def]
  exact if_neg (by rw [hc]; exact Bool.false_ne_true)

/-- Any white space before a text is not read. -/
theorem wordsOf_append_of_blank (hgap : Blank gap) (cs : List Char) : wordsOf (gap ++ cs) = wordsOf cs := by
  induction gap with
  | nil => rfl
  | cons c gap ih =>
    obtain ⟨hc, hgap⟩ := List.forall_mem_cons.1 hgap
    rw [List.cons_append, wordsOf_cons_of_blank hc, ih hgap]

/-- A word ends where white space follows. -/
theorem wordsOf_append_of_word {rest : List Char} (hsome : word ≠ []) (hword : Unbroken word)
    (hend : ∀ c ∈ rest.head?, isBlank c = true) : wordsOf (word ++ rest) = word :: wordsOf rest := by
  induction word with
  | nil => exact absurd rfl hsome
  | cons c word ih =>
    obtain ⟨hc, hword⟩ := List.forall_mem_cons.1 hword
    cases word with
    | nil =>
      cases rest with
      | nil => exact wordsOf_cons_of_word hc []
      | cons d rest =>
        have hd : isBlank d = true := hend d rfl
        rw [List.cons_append, List.nil_append, wordsOf_cons_of_word hc]
        exact if_pos hd
    | cons d word =>
      have hd : isBlank d = false := hword d List.mem_cons_self
      have hmore := ih (List.cons_ne_nil _ _) hword
      rw [List.cons_append] at hmore
      rw [List.cons_append, List.cons_append, wordsOf_cons_of_word hc, hmore]
      exact if_neg (by rw [hd]; exact Bool.false_ne_true)

/-- The words that a text has are read. -/
theorem wordsOf_of_words (h : Words cs words) : wordsOf cs = words := by
  induction h with
  | blank hgap =>
    have hnone := wordsOf_append_of_blank hgap []
    rwa [List.append_nil] at hnone
  | word hgap hsome hword hend _ ih => rw [wordsOf_append_of_blank hgap, wordsOf_append_of_word hsome hword hend, ih]

/-- A character before the end of a text, or before white space, is a word of its own. -/
theorem Words.cons_word {c : Char} (hc : isBlank c = false) (hend : ∀ d ∈ cs.head?, isBlank d = true) (h : Words cs words) :
    Words (c :: cs) ([c] :: words) :=
  have hword : Unbroken [c] := by simpa [Unbroken] using hc
  .word blank_nil (List.cons_ne_nil c []) hword hend h

/-- A character before a word is part of it. -/
theorem Words.cons_part {c d : Char} (hc : isBlank c = false) (hd : isBlank d = false) (h : Words (d :: cs) words) :
    ∃ word rest, words = word :: rest ∧ Words (c :: d :: cs) ((c :: word) :: rest) := by
  generalize htext : d :: cs = text at h
  cases h with
  | blank hgap =>
    rw [← htext, Blank, List.forall_mem_cons, hd] at hgap
    cases hgap.1
  | @word gap word rest words hgap hsome hword hend hrest =>
    refine ⟨word, words, rfl, ?_⟩
    -- there is no white space before the word, as there is none at the beginning
    cases gap with
    | cons e gap =>
      rw [List.cons_append, List.cons.injEq] at htext
      rw [← htext.1, Blank, List.forall_mem_cons, hd] at hgap
      cases hgap.1
    | nil =>
      rw [List.nil_append, ← List.cons_append]
      exact .word blank_nil (List.cons_ne_nil _ _) (List.forall_mem_cons.2 ⟨hc, hword⟩) hend hrest

/-- What is read of a text are its words. -/
theorem words_wordsOf (cs : List Char) : Words cs (wordsOf cs) := by
  fun_induction wordsOf cs with
  | case1 => exact .blank blank_nil
  | case2 c cs hc ih => exact ih.cons_blank hc
  | case3 c hc => exact Words.cons_word (by simpa using hc) (by simp) (.blank blank_nil)
  | case4 c hc d rest hd ih => exact ih.cons_word (by simpa using hc) (by simpa using hd)
  | case5 c hc d rest hd hwords ih =>
    obtain ⟨word, words, hcons, _⟩ := ih.cons_part (by simpa using hc) (by simpa using hd)
    rw [hwords] at hcons
    cases hcons
  | case6 c hc d rest hd word words hwords ih =>
    obtain ⟨word', words', hcons, hparts⟩ := ih.cons_part (by simpa using hc) (by simpa using hd)
    rw [hwords] at hcons
    cases hcons
    rwa [hwords]

/-- The words of a text are those that it is put together from. -/
theorem words_iff : Words cs words ↔ wordsOf cs = words :=
  ⟨wordsOf_of_words, fun h => h ▸ words_wordsOf cs⟩

/-! ## Lines -/

/-- The lines of a text. A line ends with a line feed, or with a carriage return and a line feed; the last one may have no end. -/
inductive Lines : List Char → List (List Char) → Prop where
  | done : Lines [] []
  | last {line : List Char} (hsome : line ≠ []) (hfeed : '\n' ∉ line) : Lines line [line]
  | feed {line text : List Char} {lines : List (List Char)} (hfeed : '\n' ∉ line) (hreturn : line.getLast? ≠ some '\r')
      (hrest : Lines text lines) : Lines (line ++ '\n' :: text) (line :: lines)
  | returnFeed {line text : List Char} {lines : List (List Char)} (hfeed : '\n' ∉ line) (hrest : Lines text lines) :
      Lines (line ++ '\r' :: '\n' :: text) (line :: lines)

/-- A line has all characters that it has without its carriage return. -/
theorem mem_of_mem_dropReturn {c : Char} (h : c ∈ dropReturn line) : c ∈ line := by
  unfold dropReturn at h
  split at h
  · rename_i rest hreverse
    rw [← List.mem_reverse, hreverse]
    exact List.mem_cons_of_mem _ (List.mem_reverse.1 h)
  · exact h

/-- A carriage return at the end of a line is dropped. -/
theorem dropReturn_append (line : List Char) : dropReturn (line ++ ['\r']) = line := by
  rw [dropReturn, List.reverse_append]
  exact List.reverse_reverse line

/-- What is before the first line feed is a line. -/
theorem linesOf_append (hfeed : '\n' ∉ line) (text : List Char) : linesOf (line ++ '\n' :: text) = dropReturn line :: linesOf text := by
  obtain ⟨piece, pieces, hpieces⟩ := List.exists_cons_of_ne_nil (splitAtChar_ne_nil '\n' text)
  rw [linesOf, splitAtChar_append, splitAtChar_of_not_mem hfeed, List.singleton_append, linesOf, hpieces]
  rfl

/-- A text without line feeds is one line, or none if it is empty. -/
theorem linesOf_of_not_mem (hfeed : '\n' ∉ line) : linesOf line = if line.isEmpty then [] else [line] := by
  rw [linesOf, splitAtChar_of_not_mem hfeed]
  rfl

/-- The lines that a text has are read. -/
theorem linesOf_of_lines (h : Lines text lines) : linesOf text = lines := by
  induction h with
  | done => rfl
  | last hsome hfeed => rw [linesOf_of_not_mem hfeed, if_neg (by simpa using hsome)]
  | feed hfeed hreturn _ ih => rw [linesOf_append hfeed, dropReturn_of_ne hreturn, ih]
  | @returnFeed line text _ hfeed _ ih =>
    have hline : '\n' ∉ line ++ ['\r'] := by simpa using hfeed
    rw [List.append_cons, linesOf_append hline, dropReturn_append, ih]

/-- A line and its line feed are in front of the lines that follow. -/
theorem Lines.cons (hfeed : '\n' ∉ line) (h : Lines text lines) : Lines (line ++ '\n' :: text) (dropReturn line :: lines) := by
  by_cases hreturn : line.getLast? = some '\r'
  · obtain ⟨kept, rfl⟩ := List.getLast?_eq_some_iff.1 hreturn
    rw [dropReturn_append, ← List.append_cons]
    exact .returnFeed (fun hmem => hfeed (List.mem_append_left _ hmem)) h
  · rw [dropReturn_of_ne hreturn]
    exact .feed hfeed hreturn h

/-- What is read of a text are its lines. -/
theorem lines_linesOf (text : List Char) : Lines text (linesOf text) := by
  induction hlength : text.length using Nat.strongRecOn generalizing text with
  | _ length ih =>
    by_cases hfeed : '\n' ∈ text
    · obtain ⟨line, rest, rfl, hline⟩ := List.eq_append_cons_of_mem hfeed
      rw [linesOf_append hline]
      exact (ih rest.length (by simp [← hlength]; omega) rest rfl).cons hline
    · rw [linesOf_of_not_mem hfeed]
      split
      · rename_i hempty
        rw [List.isEmpty_iff.1 hempty]
        exact .done
      · rename_i hsome
        exact .last (by simpa using hsome) hfeed

/-- The lines of a text are those that it is put together from. -/
theorem lines_iff : Lines text lines ↔ linesOf text = lines :=
  ⟨linesOf_of_lines, fun h => h ▸ lines_linesOf text⟩

/-! ## Pieces -/

/-- The pieces joined are the text again. -/
theorem joinWith_splitAtChar (sep : Char) (cs : List Char) :
    (joinWith (String.singleton sep) ((splitAtChar sep cs).map String.ofList)).toList = cs := by
  induction cs with
  | nil => rfl
  | cons c cs ih =>
    obtain ⟨piece, pieces, hpieces⟩ := List.exists_cons_of_ne_nil (splitAtChar_ne_nil sep cs)
    rw [hpieces] at ih
    rw [splitAtChar, hpieces]
    split
    · rename_i hc
      -- an empty piece, and the separator behind it
      simpa [joinWith, hc] using ih
    · -- a character in front of the first piece
      cases pieces with
      | nil => simpa [joinWith] using ih
      | cons next pieces => simpa [joinWith] using ih

/-- The pieces of a text are the texts without a separator that it is put together from with separators between them. -/
theorem splitAtChar_iff {sep : Char} {pieces : List String} : (splitAtChar sep cs).map String.ofList = pieces ↔
    pieces ≠ [] ∧ (∀ s ∈ pieces, sep ∉ s.toList) ∧ (joinWith (String.singleton sep) pieces).toList = cs := by
  constructor
  · rintro rfl
    refine ⟨by simpa using splitAtChar_ne_nil sep cs, ?_, joinWith_splitAtChar sep cs⟩
    simpa using fun piece => not_mem_of_mem_splitAtChar
  · rintro ⟨hsome, hsep, rfl⟩
    rw [splitAtChar_joinWith hsome hsep, List.map_map]
    simp

/-- A text is put together from its pieces, in which there is no separator, with separators between them. -/
structure Pieces (sep : Char) (s : String) (pieces : List String) : Prop where
  some : pieces ≠ []
  whole : ∀ piece ∈ pieces, sep ∉ piece.toList
  join : joinWith (String.singleton sep) pieces = s

/-- The pieces of a text are those that it is split into. -/
theorem pieces_iff {sep : Char} {s : String} {pieces : List String} : Pieces sep s pieces ↔ split sep s = pieces := by
  rw [split, splitAtChar_iff, String.toList_inj]
  exact ⟨fun h => ⟨h.some, h.whole, h.join⟩, fun ⟨hsome, hwhole, hjoin⟩ => ⟨hsome, hwhole, hjoin⟩⟩

/-- There is one piece more than there are separators. -/
theorem length_splitAtChar (sep : Char) (cs : List Char) : (splitAtChar sep cs).length = cs.count sep + 1 := by
  induction cs with
  | nil => rfl
  | cons c cs ih =>
    obtain ⟨piece, pieces, hpieces⟩ := List.exists_cons_of_ne_nil (splitAtChar_ne_nil sep cs)
    rw [splitAtChar, List.count_cons, ← Nat.add_right_comm, ← ih, hpieces]
    split <;> simp_all

/-! ## Margins -/

/-- There is no white space at either end of a text. -/
structure Trimmed (cs : List Char) : Prop where
  first : ∀ c ∈ cs.head?, isBlank c = false
  last : ∀ c ∈ cs.getLast?, isBlank c = false

/-- A text is another one with any white space before and behind it. -/
def InMargins (core cs : List Char) : Prop := ∃ before after, Blank before ∧ Blank after ∧ cs = before ++ (core ++ after)

/-- A text without the white space at its beginning goes on with something else. -/
theorem dropBlank_iff {rest : List Char} : cs.dropWhile isBlank = rest ↔
    (∃ before, Blank before ∧ cs = before ++ rest) ∧ ∀ c ∈ rest.head?, isBlank c = false := by
  constructor
  · rintro rfl
    refine ⟨⟨cs.takeWhile isBlank, List.all_eq_true.1 List.all_takeWhile, List.takeWhile_append_dropWhile.symm⟩,
      fun c hc => ?_⟩
    have hfirst := List.head?_dropWhile_not isBlank cs
    rw [Option.mem_def.1 hc] at hfirst
    simpa using hfirst
  · rintro ⟨⟨before, hbefore, rfl⟩, hfirst⟩
    rw [List.dropWhile_append_of_pos hbefore]
    cases rest with
    | nil => rfl
    | cons c rest => exact List.dropWhile_cons_of_neg (by simp [hfirst c rfl])

/-- White space before and behind a text is all dropped, if there is none at its ends. -/
theorem dropBlank_margins (core : List Char) {before after : List Char} (hbefore : Blank before) (hafter : Blank after)
    (hfirst : ∀ c ∈ core.head?, isBlank c = false) :
    (before ++ (core ++ after)).dropWhile isBlank = if core = [] then [] else core ++ after := by
  rw [dropBlank_iff]
  cases core with
  | nil =>
    rw [if_pos rfl, List.nil_append]
    exact ⟨⟨before ++ after, List.forall_mem_append.2 ⟨hbefore, hafter⟩, (List.append_nil _).symm⟩, by simp⟩
  | cons c core =>
    rw [if_neg (List.cons_ne_nil c core)]
    exact ⟨⟨before, hbefore, rfl⟩, hfirst⟩

/-- What is left of a text without its margins. -/
theorem trimChars_iff {core : List Char} : trimChars cs = core ↔ Trimmed core ∧ InMargins core cs := by
  constructor
  · intro h
    rw [trimChars, List.reverse_eq_iff, dropBlank_iff, List.head?_reverse] at h
    obtain ⟨⟨behind, hbehind, hdrop⟩, hlast⟩ := h
    rw [List.reverse_eq_iff, List.reverse_append, List.reverse_reverse, dropBlank_iff] at hdrop
    obtain ⟨⟨before, hbefore, hcs⟩, hfirst⟩ := hdrop
    refine ⟨⟨fun c hc => hfirst c ?_, hlast⟩, before, behind.reverse, hbefore, fun c hc => hbehind c (List.mem_reverse.1 hc), hcs⟩
    rw [List.head?_append, Option.mem_def.1 hc, Option.some_or, Option.mem_def]
  · rintro ⟨⟨hfirst, hlast⟩, before, after, hbefore, hafter, rfl⟩
    have hbehind : Blank after.reverse := fun c hc => hafter c (List.mem_reverse.1 hc)
    have hdrop := dropBlank_margins core.reverse hbehind blank_nil (by rwa [List.head?_reverse])
    rw [List.append_nil, ← List.reverse_append] at hdrop
    rw [trimChars, dropBlank_margins core hbefore hafter hfirst]
    split
    · rename_i hnone
      rw [hnone]
      rfl
    · rename_i hsome
      rw [hdrop, if_neg (by simpa using hsome), List.reverse_reverse]

/-- A text is left as it is exactly if there is no white space at its ends. -/
theorem trimChars_eq_self_iff : trimChars cs = cs ↔ Trimmed cs := by
  rw [trimChars_iff]
  exact and_iff_left ⟨[], [], blank_nil, blank_nil, by simp⟩

instance (cs : List Char) : Decidable (Trimmed cs) := decidable_of_iff (trimChars cs = cs) trimChars_eq_self_iff

/-- Nothing is left of a text exactly if it is blank. -/
theorem trimChars_eq_nil_iff : trimChars cs = [] ↔ Blank cs := by
  rw [trimChars_iff]
  constructor
  · rintro ⟨_, before, after, hbefore, hafter, rfl⟩
    exact List.forall_mem_append.2 ⟨hbefore, hafter⟩
  · exact fun h => ⟨⟨by simp, by simp⟩, cs, [], h, blank_nil, by simp⟩

end Text

end VolumeDriver
