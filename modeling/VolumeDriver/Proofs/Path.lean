import VolumeDriver.Files.Tree
import VolumeDriver.Proofs.Text

/-!
# The path above

The path above a path has the names of the path but the last (`Path.parent_of_plain`), however many slashes stand between them. It is
made of the pieces of the path, which joined by slashes are the pieces of the text again (`Text.splitAtChar_joinWith`).
-/

namespace VolumeDriver

open Files

namespace Text

/-- A text begins with a separator if its first piece is empty and not the only one. -/
theorem head?_of_splitAtChar {sep : Char} {cs piece : List Char} {pieces : List (List Char)}
    (h : splitAtChar sep cs = [] :: piece :: pieces) : cs.head? = some sep := by
  cases cs with
  | nil => cases h
  | cons c cs =>
    rw [splitAtChar] at h
    split at h
    · rename_i hc
      rw [hc, List.head?_cons]
    · split at h <;> cases h

end Text

namespace Path

/-- An absolute path without `.` and `..`. -/
structure Plain (p : Path) : Prop where
  absolute : p.isAbsolute = true
  named : ∀ piece ∈ Text.splitAtChar '/' p.chars, piece ≠ ['.'] ∧ piece ≠ ['.', '.']

/-- What is walked of a path: its pieces but the empty ones. -/
theorem parts_eq (p : Path) :
    (Route.ofText p.text).parts = ((Text.splitAtChar '/' p.chars).filter (· ≠ [])).map String.ofList := by
  show ((Text.splitAtChar '/' p.chars).map String.ofList).filter _ = _
  rw [List.filter_map]
  refine congrArg (List.map String.ofList) (List.filter_congr fun piece _ => ?_)
  simp [String.ofList_eq_empty_iff]

/-- Only empty pieces are dropped from the end, and not all pieces are. -/
theorem dropIdle_suffix (pieces : List (List Char)) :
    ∃ idle, pieces = idle ++ dropIdle pieces ∧ ∀ piece ∈ idle, (ofPiece piece).isNone = true := by
  induction pieces with
  | nil => exact ⟨[], rfl, by simp⟩
  | cons piece pieces ih =>
    rw [dropIdle]
    split
    · rename_i hidle
      obtain ⟨idle, heq, hall⟩ := ih
      exact ⟨piece :: idle, by rw [List.cons_append, ← heq], List.forall_mem_cons.2 ⟨hidle.1, hall⟩⟩
    · exact ⟨[], rfl, by simp⟩

/-- Of some pieces, some are kept when the idle ones are dropped. -/
theorem dropIdle_ne_nil {pieces : List (List Char)} (h : pieces ≠ []) : dropIdle pieces ≠ [] := by
  induction pieces with
  | nil => exact absurd rfl h
  | cons piece pieces ih =>
    rw [dropIdle]
    split
    · rename_i hidle
      exact ih fun hnil => hidle.2 (List.isEmpty_iff.2 hnil)
    · exact List.cons_ne_nil _ _

/-- Pieces are dropped up to the first that is a component. -/
theorem dropIdle_append {idle rest : List (List Char)} {piece : List Char} (hidle : ∀ x ∈ idle, (ofPiece x).isNone = true)
    (hpiece : (ofPiece piece).isNone = false) : dropIdle (idle ++ piece :: rest) = piece :: rest := by
  induction idle with
  | nil => rw [List.nil_append, dropIdle, if_neg (by simp [hpiece])]
  | cons x idle ih =>
    rw [List.forall_mem_cons] at hidle
    rw [List.cons_append, dropIdle, if_pos ⟨hidle.1, by simp⟩, ih hidle.2]

/-- The text of the path above, from the pieces that are kept. -/
def ofKept (kept : List String) : Path :=
  match kept with
  | [""] => ⟨"/"⟩
  | _ => ⟨Text.joinWith "/" kept⟩

/-- The pieces of the path above are those that are kept, but the root has one more. -/
theorem pieces_ofKept (pieces : List (List Char)) (hslash : ∀ piece ∈ pieces, '/' ∉ piece) :
    ∃ piece rest, Text.splitAtChar '/' (ofKept (([] :: pieces).map String.ofList)).chars = [] :: piece :: rest ∧
      (piece :: rest = pieces ∨ pieces = [] ∧ piece :: rest = [[]]) := by
  cases pieces with
  | nil => exact ⟨[], [], by rfl, Or.inr ⟨rfl, rfl⟩⟩
  | cons piece rest =>
    have hkept : ofKept (([] :: piece :: rest).map String.ofList) = ⟨Text.joinWith "/" (([] :: piece :: rest).map String.ofList)⟩ := by
      rfl
    refine ⟨piece, rest, ?_, Or.inl rfl⟩
    rw [hkept]
    show Text.splitAtChar '/' (Text.joinWith (String.singleton '/') _).toList = _
    rw [Text.splitAtChar_joinWith (by simp) (by simpa using hslash), List.map_map]
    simp

namespace Plain

variable {p : Path}

/-- A plain path begins at the root. -/
theorem head?_chars (hp : p.Plain) : p.chars.head? = some '/' := of_decide_eq_true hp.absolute

/-- The pieces of an absolute path begin with an empty one. -/
theorem pieces_eq (hp : p.Plain) : ∃ pieces, Text.splitAtChar '/' p.chars = [] :: pieces := by
  obtain ⟨cs, hcs⟩ := List.head?_eq_some_iff.1 hp.head?_chars
  exact ⟨_, by rw [hcs, Text.splitAtChar, if_pos rfl]⟩

/-- A plain path is the root, and a name for each piece that is one. -/
theorem components_eq (hp : p.Plain) : p.components = .root :: (Text.splitAtChar '/' p.chars).filterMap ofPiece := by
  rw [components, componentsOf, if_pos hp.head?_chars]

/-- Of the pieces only the empty ones are no components. -/
theorem ofPiece_isNone (hp : p.Plain) {piece : List Char} (h : piece ∈ Text.splitAtChar '/' p.chars) :
    (ofPiece piece).isNone = true ↔ piece = [] := by
  obtain ⟨hhere, hup⟩ := hp.named piece h
  unfold ofPiece
  split <;> simp_all

/-- Nothing is above the root. -/
theorem parent_of_root (hp : p.Plain) (h : (Route.ofText p.text).parts = []) : p.parent = none := by
  rw [parts_eq, List.map_eq_nil_iff] at h
  have hcomponents : p.components = [.root] := by
    rw [hp.components_eq, List.filterMap_eq_nil_iff.2 fun piece hpiece => ?_]
    have hnil := List.filter_eq_nil_iff.1 h piece hpiece
    exact Option.isNone_iff_eq_none.1 ((hp.ofPiece_isNone hpiece).2 (by simpa using hnil))
  rw [parent, hcomponents]

/-- The last name of a path is behind the others, and nothing but slashes are behind it. -/
theorem pieces_of_parts (hp : p.Plain) {init : List String} {name : String}
    (hparts : (Route.ofText p.text).parts = init ++ [name]) :
    ∃ before last after, Text.splitAtChar '/' p.chars = ([] :: before) ++ last :: after ∧ (ofPiece last).isNone = false ∧
      (∀ piece ∈ after, (ofPiece piece).isNone = true) ∧ (before.filter (· ≠ [])).map String.ofList = init := by
  rw [parts_eq, List.map_eq_append_iff] at hparts
  obtain ⟨names, rest, hfilter, hnames, hrest⟩ := hparts
  obtain ⟨last, tail, rfl, _, htail⟩ := List.map_eq_cons_iff.1 hrest
  rw [List.map_eq_nil_iff.1 htail] at hfilter
  obtain ⟨l₁, l₂, hpieces, hbefore, hbehind⟩ := List.filter_eq_append_iff.1 hfilter
  obtain ⟨idle, after, rfl, hidle, hlast, hafter⟩ := List.filter_eq_cons_iff.1 hbehind
  replace hlast : last ≠ [] := of_decide_eq_true hlast
  rw [← List.append_assoc] at hpieces
  obtain ⟨pieces, hfirst⟩ := hp.pieces_eq
  have hisNone : ∀ piece ∈ Text.splitAtChar '/' p.chars, (ofPiece piece).isNone = true ↔ piece = [] :=
    fun piece h => hp.ofPiece_isNone h
  rw [hpieces] at hisNone hfirst
  obtain ⟨before, hhead⟩ : ∃ before, l₁ ++ idle = [] :: before := by
    cases hcut : l₁ ++ idle with
    | nil =>
      rw [hcut] at hfirst
      exact absurd (List.cons.inj hfirst).1 hlast
    | cons first before =>
      rw [hcut] at hfirst
      exact ⟨before, by rw [(List.cons.inj hfirst).1]⟩
  refine ⟨before, last, after, by rw [hpieces, hhead], ?_, fun piece h => ?_, ?_⟩
  · exact Bool.eq_false_iff.2 fun hnone => hlast ((hisNone last (by simp)).1 hnone)
  · have hnil := List.filter_eq_nil_iff.1 hafter piece h
    exact (hisNone piece (by simp [h])).2 (by simpa using hnil)
  · have hidles : idle.filter (· ≠ []) = [] := List.filter_eq_nil_iff.2 hidle
    have hfilters : ([] :: before).filter (· ≠ []) = names := by
      rw [← hhead, List.filter_append, hbefore, hidles, List.append_nil]
    rw [← hnames, ← hfilters, List.filter_cons_of_neg (by simp)]

/-- The path above a path is made of what is left of its pieces. -/
theorem parent_of_pieces (hp : p.Plain) {before after : List (List Char)} {last : List Char}
    (hpieces : Text.splitAtChar '/' p.chars = ([] :: before) ++ last :: after) (hlast : (ofPiece last).isNone = false)
    (hafter : ∀ piece ∈ after, (ofPiece piece).isNone = true) :
    p.parent = some (ofKept ((dropIdle ([] :: before).reverse).reverse.map String.ofList)) := by
  have hdropped : dropIdle (Text.splitAtChar '/' p.chars).reverse = last :: ([] :: before).reverse := by
    rw [hpieces, List.reverse_append, List.reverse_cons, List.append_assoc, List.singleton_append,
      dropIdle_append (by simpa using hafter) hlast]
  obtain ⟨component, hcomponent⟩ := Option.isSome_iff_exists.1 (Option.isNone_eq_false_iff.1 hlast)
  have hcomponents : ∃ first rest, p.components = .root :: first :: rest := by
    have hmem : component ∈ (Text.splitAtChar '/' p.chars).filterMap ofPiece :=
      List.mem_filterMap.2 ⟨last, by simp [hpieces], hcomponent⟩
    obtain ⟨first, rest, hrest⟩ := List.exists_cons_of_ne_nil (List.ne_nil_of_mem hmem)
    exact ⟨first, rest, by rw [hp.components_eq, hrest]⟩
  obtain ⟨first, rest, hcomponents⟩ := hcomponents
  obtain ⟨x, xs, hreverse⟩ := List.exists_cons_of_ne_nil (l := ([] :: before).reverse) (by simp)
  rw [parent, hcomponents, hdropped, hreverse]
  dsimp only
  generalize (dropIdle (x :: xs)).reverse.map String.ofList = kept
  split <;> simp [ofKept, *]

/-- The path above a path has the same names, but the last. -/
theorem parent_of_parts (hp : p.Plain) {init : List String} {name : String}
    (hparts : (Route.ofText p.text).parts = init ++ [name]) :
    ∃ above, p.parent = some above ∧ above.Plain ∧ (Route.ofText above.text).parts = init := by
  obtain ⟨before, last, after, hpieces, hlast, hafter, hinit⟩ := hp.pieces_of_parts hparts
  obtain ⟨idle, hsuffix, hidle⟩ := dropIdle_suffix ([] :: before).reverse
  have hkept : dropIdle ([] :: before).reverse ≠ [] := dropIdle_ne_nil (by simp)
  have hparent := hp.parent_of_pieces hpieces hlast hafter
  generalize dropIdle ([] :: before).reverse = kept at hsuffix hkept hparent
  have hpieces' : [] :: before = kept.reverse ++ idle.reverse := by
    rw [← List.reverse_append, ← hsuffix, List.reverse_reverse]
  obtain ⟨first, left, hleft⟩ := List.exists_cons_of_ne_nil (l := kept.reverse) (by simpa using hkept)
  rw [hleft, List.cons_append] at hpieces'
  obtain ⟨rfl, rfl⟩ := List.cons.inj hpieces'
  have hmem : ∀ piece ∈ left ++ idle.reverse, piece ∈ Text.splitAtChar '/' p.chars := by
    intro piece h
    rw [hpieces]
    simp only [List.cons_append, List.mem_cons, List.mem_append]
    exact Or.inr (Or.inl (List.mem_append.1 h))
  have hempty : ∀ piece ∈ idle.reverse, piece = [] := fun piece h =>
    (hp.ofPiece_isNone (hmem piece (List.mem_append_right _ h))).1 (hidle piece (List.mem_reverse.1 h))
  obtain ⟨piece, rest, habove, hrest⟩ := pieces_ofKept left fun piece h =>
    Text.not_mem_of_mem_splitAtChar (hmem piece (List.mem_append_left _ h))
  rw [hleft] at hparent
  refine ⟨_, hparent, ⟨decide_eq_true (Text.head?_of_splitAtChar habove), ?_⟩, ?_⟩
  · rw [habove]
    rcases hrest with rfl | ⟨_, hroot⟩
    · exact List.forall_mem_cons.2 ⟨by simp, fun x h => hp.named x (hmem x (List.mem_append_left _ h))⟩
    · rw [hroot]
      simp
  · have hidles : (idle.reverse).filter (· ≠ []) = [] := List.filter_eq_nil_iff.2 fun x h => by simp [hempty x h]
    rw [parts_eq, habove, ← hinit, List.filter_append, hidles, List.append_nil, List.filter_cons_of_neg (by simp)]
    rcases hrest with rfl | ⟨rfl, hroot⟩
    · rfl
    · rw [hroot]
      rfl

end Plain

end Path

end VolumeDriver
