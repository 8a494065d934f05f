import Mathlib.Data.List.DropRight
import VolumeDriver.Mount.Table
import VolumeDriver.Proofs.Text

/-!
# Mounts at a path that is spelled in another way

A path has several spellings, as slashes may be repeated and `.` be put between them. A mount is found for all of them, unless its
directory was removed: then the mark of a removed directory is put behind the text of the path, and so becomes part of a name together
with what stands behind the last slash, be it a component or not. So two spellings of a path have the same mounts exactly if they end
alike (`MountEntry.respelled_alike_iff`).
-/

namespace VolumeDriver

namespace Path

variable {p q : Path}

/-! ## The end of a path -/

/-- What stands behind the last slash of a path: all of it if there is no slash. -/
def ending (p : Path) : List Char := p.chars.rtakeWhile (· ≠ '/')

/-- A path up to its last slash. -/
def stem (p : Path) : List Char := p.chars.rdropWhile (· ≠ '/')

/-- A path is its stem and its ending. -/
theorem stem_append_ending (p : Path) : p.stem ++ p.ending = p.chars := List.rdropWhile_append_rtakeWhile

/-- There is no slash in the ending of a path. -/
theorem slash_not_mem_ending (p : Path) : '/' ∉ p.ending := fun h => by simpa using List.mem_rtakeWhile_imp h

/-- The stem of a path is empty or ends in a slash. -/
theorem stem_cases (p : Path) : p.stem = [] ∨ ∃ above, p.stem = above ++ ['/'] := by
  by_cases hstem : p.stem = []
  · exact Or.inl hstem
  · have hlast : p.stem.getLast hstem = '/' := by
      have hnot := List.rdropWhile_last_not _ _ hstem
      rwa [decide_eq_true_iff, not_not] at hnot
    exact Or.inr ⟨p.stem.dropLast, by rw [← hlast, List.dropLast_append_getLast]⟩

/-- A text without a slash is one component at most. -/
theorem componentsOf_of_not_mem {piece : List Char} (hslash : '/' ∉ piece) (hdot : piece ≠ ['.']) :
    componentsOf piece = (ofPiece piece).toList := by
  have hhead : piece.head? ≠ some '/' := fun h => hslash (List.mem_of_head? h)
  rw [componentsOf, Text.splitAtChar_of_not_mem hslash, if_neg hhead, if_neg (by simpa using hdot), filterMap_ofPiece_singleton]

/-- The components of a path are those up to its last slash, and what stands behind it. A single dot alone is a component that is
otherwise none. -/
theorem components_of_ne_dot (h : p.text ≠ ".") : p.components = componentsOf p.stem ++ (ofPiece p.ending).toList := by
  rw [components, ← p.stem_append_ending]
  rcases p.stem_cases with hstem | ⟨above, hstem⟩
  · have hdot : p.ending ≠ ['.'] := by
      intro hending
      have hchars := p.stem_append_ending
      rw [hstem, hending] at hchars
      exact h (String.toList_inj.1 hchars.symm)
    rw [hstem, List.nil_append, componentsOf_of_not_mem p.slash_not_mem_ending hdot]
    rfl
  · rw [hstem, List.append_assoc, List.singleton_append, componentsOf_behind above p.slash_not_mem_ending]

/-- A component is written in one way. -/
theorem ofPiece_inj {a b : List Char} {c : Component} (ha : ofPiece a = some c) (hb : ofPiece b = some c) : a = b := by
  unfold ofPiece at ha hb
  split at ha <;> cases ha
  all_goals
    split at hb <;> cases hb
    rfl

/-- Two spellings of a path end alike: the same stands behind the last slash of both, and not just one of them is a single dot. -/
structure EndsAs (p q : Path) : Prop where
  ending : p.ending = q.ending
  dot : p.text = "." ↔ q.text = "."

/-- Paths that are the same are the same as the same paths. -/
theorem same_congr (h : p.same q = true) (r : Path) : r.same p = r.same q := by
  have hcomponents : p.components = q.components := of_decide_eq_true h
  rw [same, same, hcomponents]

/-- Paths that are the same as a third are the same. -/
theorem same_of_common {r : Path} (hp : r.same p = true) (hq : r.same q = true) : p.same q = true := by
  rw [← same_congr hq]
  have hcomponents : r.components = p.components := of_decide_eq_true hp
  exact decide_eq_true hcomponents.symm

end Path

namespace MountEntry

open VolumeDriver.Path

variable {p q : Path}

/-! ## Marked as removed -/

/-- What is put behind the path of a removed directory. -/
def removedMark : List Char := "\\040(deleted)".toList

/-- The path of a removed directory is marked behind its last character. -/
theorem chars_deletedForm (p : Path) : (deletedForm p).chars = p.chars ++ removedMark := String.toList_append

/-- There is no slash in the mark of removed directories. -/
theorem slash_not_mem_removedMark : ∀ c ∈ removedMark.reverse, decide (c ≠ '/') = true := List.all_eq_true.1 (by decide)

/-- The mark of a removed directory lengthens the ending of its path. -/
theorem ending_deletedForm (p : Path) : (deletedForm p).ending = p.ending ++ removedMark := by
  rw [ending, ending, chars_deletedForm, List.rtakeWhile, List.rtakeWhile, List.reverse_append,
    List.takeWhile_append_of_pos slash_not_mem_removedMark, List.reverse_append, List.reverse_reverse]

/-- The mark of a removed directory leaves the stem of its path as it is. -/
theorem stem_deletedForm (p : Path) : (deletedForm p).stem = p.stem := by
  rw [stem, stem, chars_deletedForm, List.rdropWhile, List.rdropWhile, List.reverse_append,
    List.dropWhile_append_of_pos slash_not_mem_removedMark]

/-- The mark makes a name of whatever stands behind the last slash. -/
theorem components_deletedForm (p : Path) :
    (deletedForm p).components = componentsOf p.stem ++ [.name (p.ending ++ removedMark)] := by
  have hmark (cs : List Char) : '\\' ∈ cs ++ removedMark := List.mem_append_right _ (by decide)
  have hdot : (deletedForm p).text ≠ "." := by
    intro h
    have hchars : (deletedForm p).chars = ['.'] := congrArg String.toList h
    exact absurd (hmark p.chars) (by rw [← chars_deletedForm, hchars]; decide)
  rw [components_of_ne_dot hdot, stem_deletedForm, ending_deletedForm, ofPiece_of_mem (by decide) (hmark _), Option.toList_some]

/-- The mark of a removed directory makes another path. -/
theorem deletedForm_not_same (p : Path) : (deletedForm p).same p = false := by
  refine Bool.eq_false_iff.2 fun h => ?_
  have hcomponents : (deletedForm p).components = p.components := of_decide_eq_true h
  by_cases hp : p.text = "."
  · obtain rfl : p = ⟨"."⟩ := by rw [← hp]
    exact absurd hcomponents (by decide +kernel)
  · rw [components_deletedForm, components_of_ne_dot hp, List.append_cancel_left_eq, eq_comm,
      Option.toList_eq_singleton_iff] at hcomponents
    have hending := eq_of_ofPiece hcomponents
    exact absurd (List.self_eq_append_right.1 hending) (by decide)

/-- A path that agrees with a single dot in its components, its stem and its ending is a single dot too. -/
theorem text_eq_dot (hcomponents : p.components = q.components) (hstem : componentsOf p.stem = componentsOf q.stem)
    (hending : p.ending = q.ending) (hp : p.text = ".") : q.text = "." := by
  by_contra hq
  obtain rfl : p = ⟨"."⟩ := by rw [← hp]
  rw [components_of_ne_dot hq, ← hstem, ← hending] at hcomponents
  exact absurd hcomponents (by decide +kernel)

/-- The marked forms of two spellings of a path are the same exactly if these end alike. -/
theorem same_deletedForm_iff (h : p.same q = true) : (deletedForm p).same (deletedForm q) = true ↔ p.EndsAs q := by
  have hcomponents : p.components = q.components := of_decide_eq_true h
  rw [same, decide_eq_true_iff, components_deletedForm, components_deletedForm]
  constructor
  · intro heq
    obtain ⟨hstem, hname⟩ := List.append_inj' heq rfl
    have hending : p.ending = q.ending := List.append_cancel_right (Component.name.inj (List.singleton_inj.1 hname))
    exact ⟨hending, text_eq_dot hcomponents hstem hending, text_eq_dot hcomponents.symm hstem.symm hending.symm⟩
  · rintro ⟨hending, hdot⟩
    by_cases hp : p.text = "."
    · obtain ⟨text⟩ := p
      obtain rfl : text = q.text := hp.trans (hdot.1 hp).symm
      rfl
    · rw [components_of_ne_dot hp, components_of_ne_dot (mt hdot.2 hp), hending, List.append_cancel_right_eq] at hcomponents
      rw [hcomponents, hending]

/-- Spellings end alike if neither ends in a slash or in `.`, since what stands behind the last slash is the last component then. -/
theorem endsAs_of_component (h : p.same q = true) (hp : (ofPiece p.ending).isSome = true) (hq : (ofPiece q.ending).isSome = true) :
    p.EndsAs q := by
  obtain ⟨c, hc⟩ := Option.isSome_iff_exists.1 hp
  obtain ⟨d, hd⟩ := Option.isSome_iff_exists.1 hq
  have hdot {r : Path} (hr : (ofPiece r.ending).isSome = true) : r.text ≠ "." := by
    rintro htext
    obtain rfl : r = ⟨"."⟩ := by rw [← htext]
    exact absurd hr (by decide +kernel)
  have hcomponents : p.components = q.components := of_decide_eq_true h
  rw [components_of_ne_dot (hdot hp), components_of_ne_dot (hdot hq), hc, hd] at hcomponents
  have hlast : c = d := List.singleton_inj.1 (List.append_inj' hcomponents rfl).2
  exact ⟨ofPiece_inj hc (hlast ▸ hd), iff_of_false (hdot hp) (hdot hq)⟩

/-! ## Entries at a path -/

/-- An entry is not listed both as it is and as one whose directory was removed. -/
theorem not_marked_of_same {e : MountEntry} (h : e.path.same p = true) : e.path.same (deletedForm p) = false :=
  Bool.eq_false_iff.2 fun hmarked => absurd (same_of_common hmarked h) (Bool.eq_false_iff.1 (deletedForm_not_same p))

/-- An entry is at both spellings of a path or at neither exactly if they end alike, or the directory of the entry was removed from
neither. -/
theorem matchesPath_eq_iff (h : p.same q = true) (e : MountEntry) : e.matchesPath p = e.matchesPath q ↔
    p.EndsAs q ∨ e.path.same (deletedForm p) = false ∧ e.path.same (deletedForm q) = false := by
  rw [← same_deletedForm_iff h, matchesPath, matchesPath, ← same_congr h]
  cases hlisted : e.path.same p with
  | true => exact iff_of_true rfl (Or.inr ⟨not_marked_of_same hlisted, not_marked_of_same ((same_congr h _).symm.trans hlisted)⟩)
  | false =>
    rw [Bool.false_or, Bool.false_or]
    constructor
    · intro halike
      cases hmarked : e.path.same (deletedForm p) with
      | true => exact Or.inl (same_of_common hmarked (halike.symm.trans hmarked))
      | false => exact Or.inr ⟨rfl, halike.symm.trans hmarked⟩
    · rintro (hsame | ⟨hp, hq⟩)
      · exact same_congr hsame _
      · rw [hp, hq]

/-- An entry is at both or at neither of two spellings that end in a component. -/
theorem matchesPath_of_component (h : p.same q = true) (hp : (ofPiece p.ending).isSome = true) (hq : (ofPiece q.ending).isSome = true)
    (e : MountEntry) : e.matchesPath p = e.matchesPath q :=
  (matchesPath_eq_iff h e).2 (Or.inl (endsAs_of_component h hp hq))

/-- Of two spellings of a path all entries are at both or at neither exactly if the spellings end alike. If they do not, this holds of
the entries whose directory was removed from neither spelling. -/
theorem respelled_alike_iff (h : p.same q = true) :
    ((∀ e : MountEntry, e.matchesPath p = e.matchesPath q) ↔ p.EndsAs q) ∧
      ∀ e : MountEntry, e.matchesPath p = e.matchesPath q ↔
        p.EndsAs q ∨ e.path.same (deletedForm p) = false ∧ e.path.same (deletedForm q) = false := by
  refine ⟨⟨fun hall => ?_, fun hends e => (matchesPath_eq_iff h e).2 (Or.inl hends)⟩, matchesPath_eq_iff h⟩
  -- an entry whose directory was removed from the first
  have hself : (deletedForm p).same (deletedForm p) = true := decide_eq_true rfl
  have hmarked := (matchesPath_eq_iff h { device := ⟨""⟩, path := deletedForm p, fsType := "" }).1 (hall _)
  exact hmarked.resolve_right fun hneither => absurd hself (Bool.eq_false_iff.1 hneither.1)

/-- Slashes and dots between the names. -/
theorem respelled_alike_between : (⟨"/mnt/a"⟩ : Path).same ⟨"//mnt/.//a"⟩ = true ∧
    ∀ e : MountEntry, e.matchesPath ⟨"/mnt/a"⟩ = e.matchesPath ⟨"//mnt/.//a"⟩ := by
  have hsame : (⟨"/mnt/a"⟩ : Path).same ⟨"//mnt/.//a"⟩ = true := by decide +kernel
  have hends : (⟨"/mnt/a"⟩ : Path).EndsAs ⟨"//mnt/.//a"⟩ := ⟨by decide +kernel, by decide⟩
  exact ⟨hsame, (respelled_alike_iff hsame).1.2 hends⟩

/-- A directory that was removed is looked for under its path and not under the same path with a slash behind it. -/
theorem removed_missed_behind_slash :
    let e : MountEntry := { device := ⟨"/dev/sda"⟩, path := ⟨"/t\\040(deleted)"⟩, fsType := "ext4" }
    (⟨"/t"⟩ : Path).same ⟨"/t/"⟩ = true ∧ e.matchesPath ⟨"/t"⟩ = true ∧ e.matchesPath ⟨"/t/"⟩ = false := by
  decide +kernel

end MountEntry

end VolumeDriver
