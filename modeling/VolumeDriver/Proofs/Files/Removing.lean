import VolumeDriver.Proofs.Files.Making

/-!
# What is removed is gone

To remove a file, a link or a directory makes a tree without one entry. A walk in it is a walk in the tree as it was, or comes to the
entry and stops (`walk_drop`). So the path by which something was removed leads to nothing from then on, even if it led there through a
link (`stat_removeAs`). A canonical path names its place through directories alone, so what it leads to can be removed, if nothing is in
it (`Bare.removeAs_ok`).
-/

namespace VolumeDriver.Files.FileTree

variable {t t' : FileTree} {p : Path} {n : Nat} {here d place : Place} {name : String} {o : FileObject}

/-! ## Walks without an entry -/

/-- What stands in a tree without one place stood in the tree. -/
theorem within_drop (hplace : place ≠ []) : (t.drop place).Within t := by
  intro q o hat
  rw [at?_drop t hplace] at hat
  split at hat
  · cases hat
  · exact hat

/-- A walk that goes on behind a name goes through a directory. -/
theorem walk_prefix {init rest : List String} (hwalk : t.walk .find n here (init ++ name :: rest) = .ok (.found d)) :
    ∃ d', t.walk .find n here (init ++ ["."]) = .ok (.found d') := by
  induction n, here, init using walk_induct with
  | nil n here => exact ⟨here, by rw [List.nil_append, walk_idle (Or.inr rfl), walk_nil]⟩
  | idle n here part init hpart ih =>
    rw [List.cons_append, walk_idle hpart] at hwalk ⊢
    exact ih hwalk
  | up n here init ih =>
    rw [List.cons_append, walk_up] at hwalk ⊢
    exact ih hwalk
  | name n here part init hpart ih hfollow =>
    rw [List.cons_append] at hwalk ⊢
    obtain ⟨hpasses, hname⟩ := walk_name_ok hpart hwalk
    have hthrough : Passes .find part (init ++ ["."]) := .find hpart hpasses.short _
    cases hname with
    | missing _ hrest _ => simp at hrest
    | directory mode hat hrest =>
      rw [walk_directory hthrough hat]
      exact ih hrest
    | file _ _ hrest _ => simp at hrest
    | link k target hn hat hrest =>
      subst hn
      rw [walk_link hthrough hat, ← List.append_assoc]
      rw [← List.append_assoc] at hrest
      exact hfollow k _ _ rfl hrest

/-- A walk comes to nothing: to the end of what is there, on its last part or before. -/
def ComesToNothing (result : Except Errno Landing) : Prop := (∃ d name, result = .ok (.missing d name)) ∨ result = .error .noEntry

/-- Without one entry, a walk ends where it did, or comes to nothing. -/
theorem walk_drop (hplace : place ≠ []) {parts : List String} (hwalk : t.walk .find n here parts = .ok (.found d)) :
    (t.drop place).walk .find n here parts = .ok (.found d) ∨ ComesToNothing ((t.drop place).walk .find n here parts) := by
  induction n, here, parts using walk_induct with
  | nil n here =>
    rw [walk_nil] at hwalk ⊢
    exact Or.inl hwalk
  | idle n here part rest hpart ih =>
    rw [walk_idle hpart] at hwalk ⊢
    exact ih hwalk
  | up n here rest ih =>
    rw [walk_up] at hwalk ⊢
    exact ih hwalk
  | name n here part rest hpart ih hfollow =>
    obtain ⟨hpasses, hname⟩ := walk_name_ok hpart hwalk
    by_cases hentry : here ++ [part] = place
    · -- the walk comes to the entry that is gone
      have hgone : (t.drop place).at? (here ++ [part]) = none := by rw [at?_drop t hplace, if_pos hentry]
      rw [walk_passes hpasses, hgone]
      dsimp only
      split
      · exact Or.inr (Or.inl ⟨here, part, rfl⟩)
      · exact Or.inr (Or.inr rfl)
    · have hkept : (t.drop place).at? (here ++ [part]) = t.at? (here ++ [part]) := by rw [at?_drop t hplace, if_neg hentry]
      cases hname with
      | missing _ _ hlanding => cases hlanding
      | directory mode hat hrest =>
        rw [walk_directory hpasses (hkept.trans hat)]
        exact ih hrest
      | file mode hat hrest hlanding =>
        rw [walk_passes hpasses, hkept, hat, hrest, hlanding]
        exact Or.inl rfl
      | link k target hn hat hrest =>
        subst hn
        rw [walk_link hpasses (hkept.trans hat)]
        exact hfollow k _ _ rfl hrest

/-! ## A path to what was removed -/

/-- Once the entry that a path names is gone, the path leads to nothing. -/
theorem Names.stat_drop (h : Names t p d name) (hstat : t.stat p = .ok o) : (t.drop (d ++ [name])).stat p = .error (.os .noEntry) := by
  have hentry : d ++ [name] ≠ [] := by simp
  obtain ⟨place, hlocate, _⟩ := stat_ok.1 hstat
  obtain ⟨hroute, hwalk⟩ := locate_ok.1 hlocate
  rcases walk_drop hentry hwalk with hfound | hnothing
  · have hlocated : (t.drop (d ++ [name])).locate p = .ok place := locate_ok.2 ⟨hroute, hfound⟩
    cases hat : (t.drop (d ++ [name])).at? place with
    | none =>
      rw [stat, hlocated]
      dsimp only [bind, Except.bind]
      rw [hat]
    | some o' =>
      -- the way to the directory of the entry is still there, and there the entry is missing
      rw [h.steps_eq] at hfound
      obtain ⟨d', hwalked⟩ := walk_prefix hfound
      have hsame : d' = d := Landing.found.inj (Except.ok.inj ((walk_mono (within_drop hentry) hwalked).symm.trans h.walk))
      rw [hsame] at hwalked
      have hleads : Leads (t.drop (d ++ [name])) p d name := ⟨h.isName, h.last, hwalked⟩
      have hfree : (t.drop (d ++ [name])).at? (d ++ [name]) = none := by rw [at?_drop t hentry, if_pos rfl]
      exact absurd (stat_ok.2 ⟨place, hlocated, hat⟩) ((hleads.vacant hfree).absent o')
  · have hland : (t.drop (d ++ [name])).land .find p = system ((t.drop (d ++ [name])).walk .find linkLimit [] (Route.ofText p.text).steps) := by
      rw [land, hroute]
      rfl
    have hlocated : (t.drop (d ++ [name])).locate p = .error (.os .noEntry) := by
      rw [locate, hland]
      rcases hnothing with ⟨_, _, hmissing⟩ | herror
      · rw [hmissing]
        rfl
      · rw [herror]
        rfl
    rw [stat, hlocated]
    rfl

/-- Nothing is found at the path of a directory that was removed. -/
theorem stat_removeDirectory (hstat : t.stat p = .ok o) (h : t.removeDirectory p = .ok t') : t'.stat p = .error (.os .noEntry) := by
  obtain ⟨_, hname, h⟩ := of_bind_ok h
  obtain ⟨d, name, rfl, hnames⟩ := names_of_lastName hname
  dsimp only at h
  split at h
  · cases h
  · split at h
    · cases h
    · cases h
      exact hnames.stat_drop hstat
  · cases h

/-- Nothing is found at the path of a file that was removed. -/
theorem stat_removeFile (hstat : t.stat p = .ok o) (h : t.removeFile p = .ok t') : t'.stat p = .error (.os .noEntry) := by
  obtain ⟨_, hname, h⟩ := of_bind_ok h
  obtain ⟨d, name, rfl, hnames⟩ := names_of_lastName hname
  dsimp only at h
  split at h
  · cases h
  · cases h
  · split at h
    · cases h
    · cases h
      exact hnames.stat_drop hstat

/-- The tree without what is at a path, which is a directory or not. -/
def removeAs (t : FileTree) : FileObject → Path → Except IoError FileTree
  | .directory _, p => t.removeDirectory p
  | .file _, p | .link _, p => t.removeFile p

/-- What was removed by a path is not found by it. -/
theorem stat_removeAs (hstat : t.stat p = .ok o) (h : t.removeAs o p = .ok t') : t'.stat p = .error (.os .noEntry) := by
  cases o with
  | directory mode => exact stat_removeDirectory hstat h
  | file mode => exact stat_removeFile hstat h
  | link target => exact stat_removeFile hstat h

/-! ## What a canonical path leads to -/

/-- A name that can be walked past wherever it stands in a path. -/
structure Proper (name : String) : Prop where
  isName : IsName name
  short : name.utf8ByteSize ≤ longestName
  slash : '/' ∉ name.toList

/-- A place to which names lead through directories. -/
structure Upright (t : FileTree) (d : Place) : Prop where
  names : ∀ name ∈ d, Proper name
  directories : ∀ above below, d = above ++ below → ∃ mode, t.at? above = some (.directory mode)

/-- The top of a tree is upright. -/
theorem upright_nil (t : FileTree) : Upright t [] where
  names := by simp
  directories above below hsplit := by
    obtain ⟨rfl, _⟩ := List.append_eq_nil_iff.1 hsplit.symm
    exact ⟨_, at?_nil t⟩

namespace Upright

/-- The directory above an upright place is upright. -/
theorem dropLast (h : Upright t d) : Upright t d.dropLast where
  names name hname := h.names name (List.dropLast_subset d hname)
  directories above below hsplit := by
    rcases List.eq_nil_or_concat d with rfl | ⟨init, last, rfl⟩
    · exact h.directories above below hsplit
    · rw [List.concat_eq_append, List.dropLast_concat] at hsplit
      exact h.directories above (below ++ [last]) (by rw [List.concat_eq_append, hsplit, List.append_assoc])

/-- A directory in an upright one, under a proper name, is upright. -/
theorem concat (h : Upright t d) (hname : Proper name) {mode : Nat} (hat : t.at? (d ++ [name]) = some (.directory mode)) :
    Upright t (d ++ [name]) where
  names := by
    simp only [List.forall_mem_append, List.forall_mem_singleton]
    exact ⟨h.names, hname⟩
  directories above below hsplit := by
    rcases List.eq_nil_or_concat below with rfl | ⟨init, last, rfl⟩
    · rw [List.append_nil] at hsplit
      exact ⟨mode, hsplit ▸ hat⟩
    · rw [List.concat_eq_append, ← List.append_assoc] at hsplit
      exact h.directories above init (List.append_inj' hsplit rfl).1

end Upright

/-- There is no slash in the steps of a path. -/
theorem slash_not_mem_steps (text : String) : ∀ part ∈ (Route.ofText text).steps, '/' ∉ part.toList := by
  have hparts : ∀ part ∈ (Route.ofText text).parts, '/' ∉ part.toList := by
    intro part hpart
    obtain ⟨piece, hpiece, rfl⟩ := List.mem_map.1 (List.mem_filter.1 hpart).1
    rw [String.toList_ofList]
    exact Text.not_mem_of_mem_splitAtChar hpiece
  unfold Route.steps
  split
  · simpa [or_imp, forall_and] using hparts
  · exact hparts

/-- What a walk finds has names alone above it, and directories. -/
theorem walk_upright {parts : List String} (hparts : ∀ part ∈ parts, '/' ∉ part.toList) (hhere : Upright t here)
    (hwalk : t.walk .find n here parts = .ok (.found d)) : (∀ name ∈ d, Proper name) ∧ Upright t d.dropLast := by
  induction n, here, parts using walk_induct with
  | nil n here =>
    rw [walk_nil] at hwalk
    cases hwalk
    exact ⟨hhere.names, hhere.dropLast⟩
  | idle n here part rest hpart ih =>
    rw [walk_idle hpart] at hwalk
    exact ih (List.forall_mem_cons.1 hparts).2 hhere hwalk
  | up n here rest ih =>
    rw [walk_up] at hwalk
    exact ih (List.forall_mem_cons.1 hparts).2 hhere.dropLast hwalk
  | name n here part rest hpart ih hfollow =>
    obtain ⟨hslash, hrest⟩ := List.forall_mem_cons.1 hparts
    obtain ⟨hpasses, hname⟩ := walk_name_ok hpart hwalk
    have hproper : Proper part := ⟨hpart, hpasses.short, hslash⟩
    cases hname with
    | missing _ _ hlanding => cases hlanding
    | directory mode hat hwalk => exact ih hrest (hhere.concat hproper hat) hwalk
    | file mode _ _ hlanding =>
      cases hlanding
      rw [List.dropLast_concat]
      simp only [List.forall_mem_append, List.forall_mem_singleton]
      exact ⟨⟨hhere.names, hproper⟩, hhere⟩
    | link k target hn _ hwalk =>
      have hstart : Upright t (linkStart here target) := by
        unfold linkStart
        split
        · exact upright_nil t
        · exact hhere
      refine hfollow k _ _ hn ?_ hstart hwalk
      simp only [List.forall_mem_append]
      exact ⟨slash_not_mem_steps target, hrest⟩

/-- Names lead through directories. -/
theorem walk_names {names rest : List String} (hnames : ∀ name ∈ names, Proper name)
    (hdirectories : ∀ above below, names = above ++ below → ∃ mode, t.at? (here ++ above) = some (.directory mode)) :
    t.walk .find n here (names ++ rest) = t.walk .find n (here ++ names) rest := by
  induction names generalizing here with
  | nil => rw [List.nil_append, List.append_nil]
  | cons name names ih =>
    obtain ⟨hname, hnames⟩ := List.forall_mem_cons.1 hnames
    obtain ⟨mode, hat⟩ := hdirectories [name] names rfl
    have hbelow : ∀ above below, names = above ++ below → ∃ mode, t.at? (here ++ [name] ++ above) = some (.directory mode) := by
      intro above below hsplit
      rw [List.append_assoc]
      exact hdirectories (name :: above) below (by rw [hsplit, List.cons_append])
    rw [List.cons_append, walk_directory (.find hname.isName hname.short _) hat, ih hnames hbelow, List.append_assoc, List.singleton_append]

/-- The pieces of a path that is put together from names. -/
theorem splitAtChar_render (hplace : place ≠ []) (hnames : ∀ name ∈ place, Proper name) :
    Text.splitAtChar '/' (render place).chars = [] :: place.map String.toList := by
  have hchars : (render place).chars = '/' :: (Text.joinWith (String.singleton '/') place).toList := by
    simp [render, Path.chars]
  rw [hchars, Text.splitAtChar, if_pos rfl, Text.splitAtChar_joinWith hplace fun name hname => (hnames name hname).slash]

/-- The parts of a path that is put together from names are the names, and there is no slash behind the last. -/
theorem route_render (hplace : place ≠ []) (hnames : ∀ name ∈ place, Proper name) :
    (Route.ofText (render place).text).parts = place ∧ (Route.ofText (render place).text).slash = false := by
  have hpieces := splitAtChar_render hplace hnames
  constructor
  · have hsome : (place.map String.toList).filter (· ≠ []) = place.map String.toList := by
      refine List.filter_eq_self.2 fun piece hpiece => ?_
      obtain ⟨name, hname, rfl⟩ := List.mem_map.1 hpiece
      simpa using (hnames name hname).isName.1
    rw [Path.parts_eq, hpieces, List.filter_cons_of_neg (by simp), hsome, List.map_map]
    simp
  · refine decide_eq_false fun hlast => ?_
    obtain ⟨front, hfront⟩ := List.getLast?_eq_some_iff.1 hlast
    -- the piece behind a slash at the end would be empty, but it is the last name
    have hempty : Text.splitAtChar '/' (render place).chars = Text.splitAtChar '/' front ++ [[]] := by
      rw [Path.chars, hfront, Text.splitAtChar_append]
      rfl
    obtain ⟨init, name, rfl⟩ := (List.eq_nil_or_concat place).resolve_left hplace
    rw [hempty, List.concat_eq_append, List.map_append, List.map_singleton, ← List.cons_append] at hpieces
    have hnil : ([] : List Char) = name.toList := by simpa using (List.append_inj' hpieces rfl).2
    exact (hnames name (by simp)).isName.1 (by simpa using hnil.symm)

/-- A canonical path is that of the root, or names its place. -/
theorem names_of_canonical (h : t.canonical p = .ok p) :
    ∃ place, t.locate p = .ok place ∧
      (place = [] ∨ ∃ d name, place = d ++ [name] ∧ Names t p d name ∧ (Route.ofText p.text).slash = false) := by
  cases hlocate : t.locate p with
  | error e =>
    rw [canonical, hlocate] at h
    cases h
  | ok place =>
    rw [canonical, hlocate] at h
    have hrender : render place = p := Except.ok.inj h
    refine ⟨place, rfl, ?_⟩
    rcases List.eq_nil_or_concat place with hnil | ⟨d, name, hconcat⟩
    · exact Or.inl hnil
    rw [List.concat_eq_append] at hconcat
    obtain ⟨hroute, hwalk⟩ := locate_ok.1 hlocate
    obtain ⟨hnames, hupright⟩ := walk_upright (slash_not_mem_steps _) (upright_nil t) hwalk
    obtain ⟨hparts, hslash⟩ := route_render (by simp [hconcat]) hnames
    rw [hconcat] at hnames hupright
    rw [hrender, hconcat] at hparts
    rw [hrender] at hslash
    rw [List.dropLast_concat] at hupright
    have hproper : Proper name := hnames name (by simp)
    refine Or.inr ⟨d, name, hconcat, ⟨⟨hproper.isName, ?_, ?_⟩, hroute, hproper.short⟩, hslash⟩
    · rw [hparts, List.getLast?_concat]
    · rw [Route.parentSteps, hparts, List.dropLast_concat, walk_names hupright.names hupright.directories, List.nil_append,
        walk_idle (Or.inr rfl), walk_nil]

/-- A file, or a directory with nothing in it. -/
inductive Bare (t : FileTree) (p : Path) : FileObject → Prop where
  | file (mode : Nat) (hstat : t.stat p = .ok (.file mode)) : Bare t p (.file mode)
  | directory (place : Place) (mode : Nat) (hlocate : t.locate p = .ok place) (hat : t.at? place = some (.directory mode))
      (hempty : t.hasBelow place = false) : Bare t p (.directory mode)

/-- What is bare is found at its path. -/
theorem Bare.stat_eq (h : Bare t p o) : t.stat p = .ok o := by
  cases h with
  | file mode hstat => exact hstat
  | directory place mode hlocate hat hempty => exact stat_ok.2 ⟨place, hlocate, hat⟩

/-- A file or an empty directory is removed by its canonical path, as long as the root is not the empty directory. -/
theorem Bare.removeAs_ok (h : Bare t p o) (hcanonical : t.canonical p = .ok p) (hroot : t.hasBelow [] = true) :
    ∃ t', t.removeAs o p = .ok t' := by
  obtain ⟨place, hlocate, hnamed⟩ := names_of_canonical hcanonical
  cases h with
  | file mode hstat =>
    obtain ⟨place', hlocate', hat⟩ := stat_ok.1 hstat
    obtain rfl := Except.ok.inj (hlocate.symm.trans hlocate')
    rcases hnamed with rfl | ⟨d, name, rfl, hnames, hslash⟩
    · cases hat
    · refine ⟨t.drop (d ++ [name]), ?_⟩
      show t.removeFile p = _
      rw [removeFile, hnames.lastName]
      dsimp only [bind, Except.bind]
      rw [hat, hslash]
      rfl
  | directory place' mode hlocate' hat hempty =>
    obtain rfl := Except.ok.inj (hlocate.symm.trans hlocate')
    rcases hnamed with rfl | ⟨d, name, rfl, hnames, _⟩
    · rw [hempty] at hroot
      cases hroot
    · refine ⟨t.drop (d ++ [name]), ?_⟩
      show t.removeDirectory p = _
      rw [removeDirectory, hnames.lastName]
      dsimp only [bind, Except.bind]
      rw [hat]
      dsimp only
      rw [hempty]
      rfl

end VolumeDriver.Files.FileTree
