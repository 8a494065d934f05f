import VolumeDriver.Proofs.Files.Entry
import VolumeDriver.Proofs.Path

/-!
# What is made where nothing was

A directory or a file that is made at a path stands at the entry that the path names, and the path leads there from then on
(`Vacancy.locate_put`); to remove it gives the tree in which it was made (`Vacancy.removeDirectory_put`). The directories that lead to
a path are made from above, so the last of them was there before or is made where nothing was (`makeDirectoriesWithin_ok`).
-/

namespace VolumeDriver.Files.FileTree

variable {t t' : FileTree} {purpose : Purpose} {p q : Path} {d place : Place} {name last : String} {o : FileObject}

/-- Nothing is at a path, not even a link. -/
structure Vacant (t : FileTree) (p : Path) : Prop where
  absent : ∀ o, t.stat p ≠ .ok o
  noLink : t.isLink p = false

/-- Such a thing can be at the end of a path: a directory, or a file if no slash is behind its name. -/
inductive Fits (p : Path) : FileObject → Prop where
  | directory (mode : Nat) : Fits p (.directory mode)
  | file (mode : Nat) (h : (Route.ofText p.text).slash = false) : Fits p (.file mode)

/-! ## What a path leads to -/

/-- A path is located where its walk ends, at something that is there. -/
theorem locate_ok : t.locate p = .ok place ↔
    route p = .ok (.ofText p.text) ∧ t.walk .find linkLimit [] (Route.ofText p.text).steps = .ok (.found place) := by
  rw [← land_ok]
  unfold locate
  rcases t.land .find p with _ | _ | _ <;> simp [bind, Except.bind]

/-- What is at a path is what is found where the path is located. -/
theorem stat_ok : t.stat p = .ok o ↔ ∃ place, t.locate p = .ok place ∧ t.at? place = some o := by
  unfold stat
  cases t.locate p with
  | error e => simp [bind, Except.bind]
  | ok place => cases hat : t.at? place <;> simp [bind, Except.bind, hat]

/-- At a place that was found something stands, or else there is no such entry. -/
theorem stat_of_canonical {resolved : Path} {e : IoError} (h : t.canonical p = .ok resolved) (hstat : t.stat p = .error e) :
    e = .os .noEntry := by
  unfold stat at hstat
  cases hlocate : t.locate p with
  | error e' =>
    rw [canonical, hlocate] at h
    cases h
  | ok place =>
    rw [hlocate] at hstat
    dsimp only [bind, Except.bind] at hstat
    split at hstat
    · cases hstat
    · exact (Except.error.inj hstat).symm

/-- There is a directory at a path exactly if one is found there. -/
theorem isDirectory_iff : t.isDirectory p = true ↔ ∃ mode, t.stat p = .ok (.directory mode) := by
  unfold isDirectory
  split <;> simp_all

/-- The way to a directory is the way to what is in it. -/
theorem leads_of_isDirectory (h : t.isDirectory p = true)
    (hparts : (Route.ofText q.text).parts = (Route.ofText p.text).parts ++ [last]) (hlast : IsName last) :
    ∃ d, Leads t q d last := by
  obtain ⟨mode, hstat⟩ := isDirectory_iff.1 h
  obtain ⟨d, hlocate, hat⟩ := stat_ok.1 hstat
  obtain ⟨_, hwalk⟩ := locate_ok.1 hlocate
  refine ⟨d, hlast, by rw [hparts, List.getLast?_concat], ?_⟩
  rw [Route.parentSteps, hparts, List.dropLast_concat]
  unfold Route.steps at hwalk
  split at hwalk
  · rwa [← walk_slash]
  · exact walk_stay hwalk hat

/-- The root is no file. -/
theorem createFile_root (hroot : (Route.ofText p.text).parts = []) : t.createFile p ≠ .ok t' := by
  intro h
  obtain ⟨landing, hland, h⟩ := of_bind_ok h
  obtain ⟨_, hwalk⟩ := land_ok.1 hland
  have hfound : t.walk .create linkLimit [] (Route.ofText p.text).steps = .ok (.found []) := by
    rw [Route.steps, hroot]
    split
    · rw [List.nil_append, walk_idle (Or.inl rfl), walk_nil]
    · rw [walk_nil]
  cases hfound.symm.trans hwalk
  cases h

namespace Leads

/-- Where a path leads to a free entry, nothing is at the path. -/
theorem vacant (h : Leads t p d name) (hfree : t.at? (d ++ [name]) = none) : t.Vacant p where
  absent o hstat := by
    obtain ⟨place, hlocate, _⟩ := stat_ok.1 hstat
    obtain ⟨_, hwalk⟩ := locate_ok.1 hlocate
    obtain ⟨m, hm⟩ := h.walk_steps
    rw [hm] at hwalk
    cases (walk_name_ok h.isName hwalk).2 with
    | missing _ _ hlanding => cases hlanding
    | directory _ hat _ => cases hfree.symm.trans hat
    | file _ hat _ _ => cases hfree.symm.trans hat
    | link _ _ _ hat _ => cases hfree.symm.trans hat
  noLink := by
    unfold isLink
    cases hname : t.lastName p fun _ => .noEntry with
    | error e => rfl
    | ok x =>
      obtain ⟨d', name', rfl, hnames⟩ := names_of_lastName hname
      obtain ⟨rfl, rfl⟩ := h.unique hnames.toLeads
      dsimp only
      rw [hfree]

/-- Where nothing is, a walk to find a file or make it ends at a free entry, and no slash is behind its name. -/
theorem missing_of_vacant (h : Leads t p d name) (hvacant : t.Vacant p) {landing : Landing} (hland : t.land .create p = .ok landing) :
    Names t p d name ∧ (Route.ofText p.text).slash = false ∧ t.at? (d ++ [name]) = none ∧ landing = .missing d name := by
  obtain ⟨hroute, hwalk⟩ := land_ok.1 hland
  obtain ⟨m, hm⟩ := h.walk_steps
  rw [hm] at hwalk
  obtain ⟨hpasses, hnamed⟩ := walk_name_ok h.isName hwalk
  have hnames : Names t p d name := { h with asked := hroute, short := hpasses.short }
  have hslash : (Route.ofText p.text).slash = false := by
    refine Bool.eq_false_iff.2 fun hslash => hpasses.free ⟨rfl, ?_⟩
    rw [hslash]
    rfl
  rw [hslash] at hm hnamed
  -- what is found there can be looked at
  have hfind : t.walk .find m d [name] = _ := walk_passes (.find h.isName hpasses.short [])
  have hfound : ∀ {o}, t.at? (d ++ [name]) = some o → t.walk .find m d [name] ≠ .ok (.found (d ++ [name])) :=
    fun hat hwalk => hvacant.absent _ (stat_ok.2 ⟨_, locate_ok.2 ⟨hroute, (hm .find).trans hwalk⟩, hat⟩)
  cases hnamed with
  | missing hat _ hlanding => exact ⟨hnames, hslash, hat, hlanding⟩
  | directory mode hat _ =>
    rw [hat] at hfind
    exact absurd (hfind.trans walk_nil) (hfound hat)
  | file mode hat _ _ =>
    rw [hat] at hfind
    exact absurd hfind (hfound hat)
  | link k target _ hat _ =>
    have hlink := hvacant.noLink
    unfold isLink at hlink
    rw [hnames.lastName] at hlink
    dsimp only at hlink
    rw [hat, hslash] at hlink
    cases hlink

/-- To make a file where nothing is takes a free entry, and no slash behind its name. -/
theorem createFile_ok (h : Leads t p d name) (ht : t.Rooted) (hvacant : t.Vacant p) (hmade : t.createFile p = .ok t') :
    Vacancy t p d name ∧ Fits p (.file (grantedMode 0o666)) ∧ t' = t.put (d ++ [name]) (.file (grantedMode 0o666)) := by
  obtain ⟨landing, hland, hmade⟩ := of_bind_ok hmade
  obtain ⟨hnames, hslash, hfree, rfl⟩ := h.missing_of_vacant hvacant hland
  cases hmade
  exact ⟨⟨hnames, ht, hfree⟩, .file _ hslash, rfl⟩

end Leads

/-! ## What was made -/

/-- What was put at a name is found there. -/
theorem at?_put_self (t : FileTree) (d : Place) (name : String) (o : FileObject) :
    (t.put (d ++ [name]) o).at? (d ++ [name]) = some o := by
  rw [at?_put t (by simp), if_pos rfl]

namespace Vacancy

/-- Nothing is below what was made. -/
theorem at?_below (h : Vacancy t p d name) (o : FileObject) {q : Place} (hq : q ≠ []) :
    (t.put (d ++ [name]) o).at? (d ++ [name] ++ q) = none := by
  rw [at?_put t (by simp), if_neg (by simpa using hq)]
  exact h.rooted.below h.free q

/-- What was made at a vacancy is located by the path it was made at. -/
theorem locate_put (h : Vacancy t p d name) (ho : Fits p o) : (t.put (d ++ [name]) o).locate p = .ok (d ++ [name]) := by
  obtain ⟨m, hm⟩ := (h.toLeads.mono (h.within o)).walk_steps
  have hat := at?_put_self t d name o
  refine locate_ok.2 ⟨h.asked, ?_⟩
  rw [hm]
  cases ho with
  | directory mode =>
    rw [walk_directory (.find h.isName h.short _) hat]
    split
    · rw [walk_idle (Or.inl rfl), walk_nil]
    · rw [walk_nil]
  | file mode hslash =>
    rw [walk_passes (.find h.isName h.short _), hat, hslash]
    rfl

/-- What was made at a vacancy is found at its path. -/
theorem stat_put (h : Vacancy t p d name) (ho : Fits p o) : (t.put (d ++ [name]) o).stat p = .ok o :=
  stat_ok.2 ⟨_, h.locate_put ho, at?_put_self t d name o⟩

/-- A directory that was made and removed again leaves the tree as it was. -/
theorem removeDirectory_put (h : Vacancy t p d name) (mode : Nat) :
    (t.put (d ++ [name]) (.directory mode)).removeDirectory p = .ok t := by
  have hnames := h.toNames.mono (h.within (.directory mode))
  have hbelow := hasBelow_of_at? fun q => h.at?_below (.directory mode) (q := q)
  unfold removeDirectory
  rw [hnames.lastName]
  dsimp only [bind, Except.bind]
  rw [at?_put_self, hbelow, drop_put (by simp) h.free]
  rfl

/-- A file that was made and removed again leaves the tree as it was. -/
theorem removeFile_put (h : Vacancy t p d name) (mode : Nat) (hslash : (Route.ofText p.text).slash = false) :
    (t.put (d ++ [name]) (.file mode)).removeFile p = .ok t := by
  have hnames := h.toNames.mono (h.within (.file mode))
  unfold removeFile
  rw [hnames.lastName]
  dsimp only [bind, Except.bind]
  rw [at?_put_self, hslash, drop_put (by simp) h.free]
  rfl

/-- A directory that was made is the way to what is to be made in it. -/
theorem leads_below (h : Vacancy t p d name) (mode : Nat)
    (hparts : (Route.ofText q.text).parts = (Route.ofText p.text).parts ++ [last]) (hlast : IsName last) :
    Leads (t.put (d ++ [name]) (.directory mode)) q (d ++ [name]) last := by
  refine ⟨hlast, by rw [hparts, List.getLast?_concat], ?_⟩
  have hp : (Route.ofText p.text).parts.dropLast ++ [name] = (Route.ofText p.text).parts :=
    List.dropLast_append_getLast? name h.last
  obtain ⟨m, hm⟩ := walk_through (h.toLeads.mono (h.within (.directory mode))).walk
  rw [Route.parentSteps, hparts, List.dropLast_concat, ← hp, List.append_assoc, List.singleton_append,
    hm .find name ["."] h.isName.1, walk_directory (.find h.isName h.short _) (at?_put_self t d name _), walk_idle (Or.inr rfl), walk_nil]

end Vacancy

/-! ## Directories that lead there -/

/-- The parts of a plain path are names. -/
theorem isName_of_plain (hp : p.Plain) (h : name ∈ (Route.ofText p.text).parts) : IsName name := by
  rw [Path.parts_eq] at h
  obtain ⟨piece, hpiece, rfl⟩ := List.mem_map.1 h
  obtain ⟨hmem, hne⟩ := List.mem_filter.1 hpiece
  obtain ⟨hhere, hup⟩ := hp.named piece hmem
  replace hne : piece ≠ [] := of_decide_eq_true hne
  refine ⟨?_, ?_, ?_⟩ <;> intro heq <;> replace heq := congrArg String.toList heq <;> rw [String.toList_ofList] at heq
  · exact hne heq
  · exact hhere heq
  · exact hup heq

/-- A path that is made sure of is a directory already, and nothing is made, or it is made where nothing was. -/
theorem ensureDirectory_ok {mode : Nat} (ht : t.Rooted) (h : t.ensureDirectory mode p = (.ok (), t')) :
    (t' = t ∧ t.isDirectory p = true) ∨
      ∃ d name, Vacancy t p d name ∧ t' = t.put (d ++ [name]) (.directory (grantedMode mode)) := by
  unfold ensureDirectory at h
  split at h
  · rename_i hmade
    cases h
    exact Or.inr (makeDirectory_ok ht hmade)
  · split at h
    · rename_i hdirectory
      cases h
      exact Or.inl ⟨rfl, hdirectory⟩
    · cases h

/-- So it is with a path that is made with all that lead there. -/
theorem makeDirectoriesWithin_ok {mode levels : Nat} (hp : p.Plain) (ht : t.Rooted)
    (h : makeDirectoriesWithin mode levels p t = (.ok (), t')) :
    (t' = t ∧ t.isDirectory p = true) ∨
      ∃ t₁ d name, Vacancy t₁ p d name ∧ t' = t₁.put (d ++ [name]) (.directory (grantedMode mode)) := by
  induction levels generalizing p t' with
  | zero => cases h
  | succ levels ih =>
    have hcomponents : p.components.isEmpty = false := by
      rw [hp.components_eq]
      rfl
    rw [makeDirectoriesWithin, hcomponents, if_neg Bool.false_ne_true] at h
    cases hmade : t.makeDirectory mode p with
    | ok u =>
      rw [hmade] at h
      cases h
      obtain ⟨d, name, hvacancy, rfl⟩ := makeDirectory_ok ht hmade
      exact Or.inr ⟨t, d, name, hvacancy, rfl⟩
    | error e =>
      rw [hmade] at h
      dsimp only at h
      split at h
      · -- what leads to the path is made first
        rcases List.eq_nil_or_concat (Route.ofText p.text).parts with hroot | ⟨init, last, hparts⟩
        · rw [hp.parent_of_root hroot] at h
          cases h
        rw [List.concat_eq_append] at hparts
        obtain ⟨above, hparent, habove, hinit⟩ := hp.parent_of_parts hparts
        have hlast : IsName last := isName_of_plain hp (by simp [hparts])
        rw [hparent] at h
        dsimp only at h
        rcases hprepared : makeDirectoriesWithin mode levels above t with ⟨_ | _, u⟩ <;> rw [hprepared] at h
        · cases h
        dsimp only at h
        rcases ih habove hprepared with ⟨rfl, _⟩ | ⟨t₁, d, name, hvacancy, rfl⟩
        · exact (ensureDirectory_ok ht h).imp_right fun hmade => ⟨u, hmade⟩
        · -- nothing is in a directory that was just made
          have hleads := hvacancy.leads_below (grantedMode mode) (hinit ▸ hparts) hlast
          have hvacant := hleads.vacant (hvacancy.at?_below _ (List.cons_ne_nil last []))
          rcases ensureDirectory_ok (hvacancy.rooted_put _) h with ⟨_, hdirectory⟩ | ⟨d', name', hmade⟩
          · obtain ⟨mode', hstat⟩ := isDirectory_iff.1 hdirectory
            exact absurd hstat (hvacant.absent _)
          · exact Or.inr ⟨_, d', name', hmade⟩
      · split at h
        · rename_i hdirectory
          cases h
          exact Or.inl ⟨rfl, hdirectory⟩
        · cases h

/-- The tree is one in which nothing was at a path, and what was made there. -/
def MadeIn (before t : FileTree) (p : Path) : Prop :=
  ∃ d name o, Vacancy before p d name ∧ Fits p o ∧ t = before.put (d ++ [name]) o

/-- A file is made where nothing was, once the directories that lead to it are made. -/
theorem madeIn_of_createFile {mode levels : Nat} {above : Path} {init : List String} {files : FileTree} (hp : p.Plain)
    (habove : above.Plain) (hparts : (Route.ofText p.text).parts = init ++ [last])
    (hinit : (Route.ofText above.text).parts = init) (ht : t.Rooted) (hvacant : t.Vacant p)
    (hdirectories : makeDirectoriesWithin mode levels above t = (.ok (), t')) (hfile : t'.createFile p = .ok files) :
    ∃ before, MadeIn before files p := by
  have hlast : IsName last := isName_of_plain hp (by simp [hparts])
  rcases makeDirectoriesWithin_ok habove ht hdirectories with ⟨rfl, hdirectory⟩ | ⟨t₁, d, name, hvacancy, rfl⟩
  · obtain ⟨d, hleads⟩ := leads_of_isDirectory hdirectory (hinit ▸ hparts) hlast
    obtain ⟨hvacancy, hfits, rfl⟩ := hleads.createFile_ok ht hvacant hfile
    exact ⟨_, _, _, _, hvacancy, hfits, rfl⟩
  · have hleads := hvacancy.leads_below (grantedMode mode) (hinit ▸ hparts) hlast
    have hfree := hleads.vacant (hvacancy.at?_below _ (List.cons_ne_nil last []))
    obtain ⟨hvacancy', hfits, rfl⟩ := hleads.createFile_ok (hvacancy.rooted_put _) hfree hfile
    exact ⟨_, _, _, _, hvacancy', hfits, rfl⟩

end VolumeDriver.Files.FileTree
