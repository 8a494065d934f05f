import VolumeDriver.Path

/-!
# Pieces and lines of texts

A text without a separator is one piece, and no piece has a separator in it. So the last component of a path is the whole of what
is put below another path, and a text in one line is the only line of its text.
-/

namespace VolumeDriver

namespace Text

variable {sep c : Char} {cs ds piece : List Char}

/-- A beginning is cut off a text exactly if the text begins so. -/
theorem afterChars_eq_some_iff {beginning cs rest : List Char} :
    afterChars beginning cs = some rest ↔ cs = beginning ++ rest := by
  induction beginning generalizing cs with
  | nil => simp [afterChars]
  | cons b bs ih =>
    cases cs with
    | nil => simp [afterChars]
    | cons c cs =>
      rw [afterChars]
      split
      · rename_i hbc
        rw [ih, hbc, List.cons_append, List.cons.injEq]
        simp
      · rename_i hbc
        simp [Ne.symm hbc]

/-- There is no white space among the characters. -/
def Unbroken (cs : List Char) : Prop := ∀ c ∈ cs, isBlank c = false

instance (cs : List Char) : Decidable (Unbroken cs) :=
  decidable_of_iff ((cs.all fun c => !isBlank c) = true) (by simp [Unbroken])

/-- A text without separators is one piece. -/
theorem splitAtChar_of_not_mem (h : sep ∉ cs) : splitAtChar sep cs = [cs] := by
  induction cs with
  | nil => rfl
  | cons c cs ih =>
    rw [List.mem_cons, not_or] at h
    rw [splitAtChar, if_neg (Ne.symm h.1), ih h.2]

/-- Every text has a piece. -/
theorem splitAtChar_ne_nil (sep : Char) (cs : List Char) : splitAtChar sep cs ≠ [] := by
  cases cs with
  | nil => exact List.cons_ne_nil _ _
  | cons c cs =>
    rw [splitAtChar]
    split
    · exact List.cons_ne_nil _ _
    · split <;> exact List.cons_ne_nil _ _

/-- The pieces before a separator, and those after it. -/
theorem splitAtChar_append (sep : Char) (cs ds : List Char) :
    splitAtChar sep (cs ++ sep :: ds) = splitAtChar sep cs ++ splitAtChar sep ds := by
  induction cs with
  | nil =>
    rw [List.nil_append, splitAtChar.eq_2, if_pos rfl, splitAtChar, List.singleton_append]
  | cons c cs ih =>
    rw [List.cons_append, splitAtChar, splitAtChar, ih]
    split
    · rw [List.cons_append]
    · obtain ⟨piece, pieces, hsplit⟩ := List.exists_cons_of_ne_nil (splitAtChar_ne_nil sep cs)
      rw [hsplit]
      rfl

/-- There is no separator in a piece. -/
theorem not_mem_of_mem_splitAtChar (h : piece ∈ splitAtChar sep cs) : sep ∉ piece := by
  induction cs generalizing piece with
  | nil =>
    rw [List.mem_singleton.1 h]
    exact List.not_mem_nil
  | cons c cs ih =>
    rw [splitAtChar] at h
    split at h
    · rcases List.mem_cons.1 h with rfl | h
      · exact List.not_mem_nil
      · exact ih h
    · rename_i hc
      split at h
      · rw [List.mem_singleton.1 h]
        simp [Ne.symm hc]
      · rename_i p ps hsplit
        rw [hsplit] at ih
        rcases List.mem_cons.1 h with rfl | h
        · rw [List.mem_cons, not_or]
          exact ⟨Ne.symm hc, ih List.mem_cons_self⟩
        · exact ih (List.mem_cons_of_mem _ h)

/-- A character is a separator or part of a piece, and the pieces have no other characters. -/
theorem mem_splitAtChar_iff (hc : c ≠ sep) : (∃ piece ∈ splitAtChar sep cs, c ∈ piece) ↔ c ∈ cs := by
  induction cs with
  | nil => simp [splitAtChar]
  | cons d cs ih =>
    rw [splitAtChar, List.mem_cons, ← ih]
    split
    · rename_i hd
      simp [hd, hc]
    · obtain ⟨piece, pieces, hpieces⟩ := List.exists_cons_of_ne_nil (splitAtChar_ne_nil sep cs)
      simp [hpieces, or_assoc]

/-- A text joined from pieces without a separator has these pieces. -/
theorem splitAtChar_joinWith {sep : Char} {pieces : List String} (hne : pieces ≠ [])
    (hsep : ∀ s ∈ pieces, sep ∉ s.toList) :
    splitAtChar sep (joinWith (String.singleton sep) pieces).toList = pieces.map String.toList := by
  induction pieces with
  | nil => exact absurd rfl hne
  | cons s rest ih =>
    rw [List.forall_mem_cons] at hsep
    cases rest with
    | nil => exact splitAtChar_of_not_mem hsep.1
    | cons next rest =>
      have hjoined : (joinWith (String.singleton sep) (s :: next :: rest)).toList =
          s.toList ++ sep :: (joinWith (String.singleton sep) (next :: rest)).toList := by
        simp [joinWith]
      rw [hjoined, splitAtChar_append, splitAtChar_of_not_mem hsep.1, ih (List.cons_ne_nil _ _) hsep.2]
      rfl

/-- A line that ends in no carriage return is left as it is. -/
theorem dropReturn_of_ne (hlast : cs.getLast? ≠ some '\r') : dropReturn cs = cs := by
  unfold dropReturn
  split
  · rename_i rest hreverse
    exact absurd (by rw [← List.head?_reverse, hreverse, List.head?_cons]) hlast
  · rfl

/-- A text without white space, and a line feed. -/
theorem linesOf_line (h : Unbroken cs) : linesOf (cs ++ ['\n']) = [cs] := by
  have hfeed : '\n' ∉ cs := fun hmem => absurd (h '\n' hmem) (by decide)
  rw [linesOf, splitAtChar_append, splitAtChar_of_not_mem hfeed, splitAtChar, List.singleton_append, linesOfPieces,
    dropReturn_of_ne]
  · rfl
  · exact fun hreturn => absurd (h '\r' (List.mem_of_getLast? hreturn)) (by decide)
  · simp

end Text

namespace Path

/-- A piece that stands for a name is that name. -/
theorem eq_of_ofPiece {piece cs : List Char} (h : ofPiece piece = some (.name cs)) : piece = cs := by
  unfold ofPiece at h
  split at h <;> cases h
  rfl

/-- A piece is a name if dots are not all that it has. -/
theorem ofPiece_of_mem {c : Char} {piece : List Char} (hc : c ≠ '.') (h : c ∈ piece) : ofPiece piece = some (.name piece) := by
  unfold ofPiece
  split
  · cases h
  · exact absurd (List.mem_singleton.1 h) hc
  · exact absurd (List.eq_of_mem_replicate (n := 2) h) hc
  · rfl

/-- A name among the components of a path is a piece of it. -/
theorem mem_splitAtChar_of_name_mem {p : Path} {cs : List Char} (h : Component.name cs ∈ p.components) :
    cs ∈ Text.splitAtChar '/' p.chars ∧ ofPiece cs = some (.name cs) := by
  have hpiece : Component.name cs ∈ (Text.splitAtChar '/' p.chars).filterMap ofPiece := by
    rw [components, componentsOf] at h
    split at h
    · simpa using h
    · split at h
      · simpa using h
      · exact h
  obtain ⟨piece, hmem, hname⟩ := List.mem_filterMap.1 hpiece
  rw [eq_of_ofPiece hname] at hmem hname
  exact ⟨hmem, hname⟩

/-- A name in a path is a piece without a slash. -/
theorem of_name_mem_components {p : Path} {cs : List Char} (h : Component.name cs ∈ p.components) :
    '/' ∉ cs ∧ ofPiece cs = some (.name cs) :=
  (mem_splitAtChar_of_name_mem h).imp_left Text.not_mem_of_mem_splitAtChar

/-- A piece of a path that is a name is a component of it. -/
theorem name_mem_components {p : Path} {cs : List Char} (hpiece : cs ∈ Text.splitAtChar '/' p.chars)
    (hname : ofPiece cs = some (.name cs)) : Component.name cs ∈ p.components := by
  have hmem : Component.name cs ∈ (Text.splitAtChar '/' p.chars).filterMap ofPiece := List.mem_filterMap.2 ⟨cs, hpiece, hname⟩
  rw [components, componentsOf]
  split
  · exact List.mem_cons_of_mem _ hmem
  · split
    · exact List.mem_cons_of_mem _ hmem
    · exact hmem

/-- One piece is one component, or none. -/
theorem filterMap_ofPiece_singleton (piece : List Char) : [piece].filterMap ofPiece = (ofPiece piece).toList := by
  rw [List.filterMap_cons, List.filterMap_nil]
  cases ofPiece piece <;> rfl

/-- The components of a path are those up to a slash, and what the piece behind it stands for. -/
theorem componentsOf_behind (above : List Char) {piece : List Char} (hslash : '/' ∉ piece) :
    componentsOf (above ++ '/' :: piece) = componentsOf (above ++ ['/']) ++ (ofPiece piece).toList := by
  have hsplit (ds : List Char) (hds : '/' ∉ ds) : Text.splitAtChar '/' (above ++ '/' :: ds) = Text.splitAtChar '/' above ++ [ds] := by
    rw [Text.splitAtChar_append, Text.splitAtChar_of_not_mem hds]
  have hpieces : (Text.splitAtChar '/' above ++ [piece]).filterMap ofPiece =
      (Text.splitAtChar '/' above ++ [[]]).filterMap ofPiece ++ (ofPiece piece).toList := by
    rw [List.filterMap_append, List.filterMap_append, filterMap_ofPiece_singleton, filterMap_ofPiece_singleton, ofPiece,
      Option.toList_none, List.append_nil]
  -- both texts begin alike
  have hhead (ds : List Char) : (above ++ '/' :: ds).head? = above.head?.or (some '/') := by
    rw [List.head?_append, List.head?_cons]
  have hfirst (ds : List Char) : (Text.splitAtChar '/' above ++ [ds]).head? = (Text.splitAtChar '/' above).head? := by
    rw [List.head?_append, List.head?_eq_some_head (Text.splitAtChar_ne_nil '/' above), Option.some_or]
  rw [componentsOf, componentsOf, hsplit piece hslash, hsplit [] List.not_mem_nil, hpieces, hhead, hhead, hfirst, hfirst]
  split
  · rw [List.cons_append]
  · split
    · rw [List.cons_append]
    · rfl

/-- A slash at the end of a path is no component. -/
theorem componentsOf_slash {above : List Char} (habove : above ≠ []) : componentsOf (above ++ ['/']) = componentsOf above := by
  have hsplit : Text.splitAtChar '/' (above ++ ['/']) = Text.splitAtChar '/' above ++ [[]] := Text.splitAtChar_append '/' above []
  have hhead : (above ++ ['/']).head? = above.head? := by
    rw [List.head?_append, List.head?_eq_some_head habove, Option.some_or]
  have hfirst : (Text.splitAtChar '/' above ++ [[]]).head? = (Text.splitAtChar '/' above).head? := by
    rw [List.head?_append, List.head?_eq_some_head (Text.splitAtChar_ne_nil '/' above), Option.some_or]
  rw [componentsOf, componentsOf, hsplit, hhead, hfirst, List.filterMap_append, filterMap_ofPiece_singleton, ofPiece,
    Option.toList_none, List.append_nil]

/-- The components of a path below another. -/
theorem componentsOf_append {above name : List Char} (habove : above ≠ []) (hslash : '/' ∉ name)
    (hname : ofPiece name = some (.name name)) :
    componentsOf (above ++ '/' :: name) = componentsOf above ++ [.name name] := by
  rw [componentsOf_behind above hslash, componentsOf_slash habove, hname, Option.toList_some]

end Path

end VolumeDriver
