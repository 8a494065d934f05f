import Mathlib.Data.List.Basic
import VolumeDriver.Files.Call
import VolumeDriver.Proofs.Files.Walk
import VolumeDriver.Proofs.SortedMap

/-!
# The entry that a path names

A path that ends in a name leads to the directory that holds the name, or would (`Leads`); a path that the system takes, with a name
that is short enough, names an entry of that directory (`Names`). What a program asks of the files changes entries of directories
only, and removes no directory with something in it, so that all that stands somewhere still stands in a directory
(`rooted_answer`).
-/

namespace VolumeDriver.Files.FileTree

variable {t t' : FileTree} {p : Path} {d : Place} {name : String} {purpose : Purpose}

/-- A path ends in a name, and what comes before leads to a directory. -/
structure Leads (t : FileTree) (p : Path) (d : Place) (name : String) : Prop where
  isName : IsName name
  last : (Route.ofText p.text).parts.getLast? = some name
  walk : t.walk .find linkLimit [] (Route.ofText p.text).parentSteps = .ok (.found d)

/-- A path names an entry of a directory, which may be free. -/
structure Names (t : FileTree) (p : Path) (d : Place) (name : String) : Prop extends Leads t p d name where
  asked : route p = .ok (.ofText p.text)
  short : name.utf8ByteSize ≤ longestName

/-! ## To the directory and on -/

/-- Of two steps in a row that succeed, both do. -/
theorem of_bind_ok {α β ε : Type} {x : Except ε α} {f : α → Except ε β} {b : β} (h : x >>= f = .ok b) :
    ∃ a, x = .ok a ∧ f a = .ok b := by
  cases x with
  | error e => cases h
  | ok a => exact ⟨a, rfl, h⟩

/-- What a system call answers is what was found. -/
theorem of_system_ok {α : Type} {x : Except Errno α} {a : α} (h : system x = .ok a) : x = .ok a := by
  cases x <;> cases h
  rfl

/-- A route is that of the text of its path. -/
theorem route_ok {r : Route} (h : route p = .ok r) : r = .ofText p.text := by
  obtain ⟨_, _, h⟩ := of_bind_ok h
  replace h := of_system_ok h
  unfold readPath at h
  split at h
  · cases h
  · split at h <;> cases h
    rfl

/-- A walk lands where the steps of the path lead. -/
theorem land_ok {landing : Landing} : t.land purpose p = .ok landing ↔
    route p = .ok (.ofText p.text) ∧ t.walk purpose linkLimit [] (Route.ofText p.text).steps = .ok landing := by
  constructor
  · intro h
    obtain ⟨r, hroute, hwalk⟩ := of_bind_ok h
    obtain rfl := route_ok hroute
    exact ⟨hroute, of_system_ok hwalk⟩
  · rintro ⟨hroute, hwalk⟩
    rw [land, hroute]
    dsimp only [bind, Except.bind]
    rw [hwalk]
    rfl

/-- The directory of a path is found by a walk over all but its last part. -/
theorem directoryOf_ok {r : Route} : t.directoryOf r = .ok d ↔ t.walk .find linkLimit [] r.parentSteps = .ok (.found d) := by
  unfold directoryOf
  split <;> rename_i hwalk <;> rw [hwalk] <;> simp

/-- A path that ends in a name has the name as its last part, which is no dot. -/
theorem last_name {r : Route} (h : r.last = .name name) :
    r.parts.getLast? = some name ∧ name ≠ "." ∧ name ≠ ".." := by
  unfold Route.last at h
  split at h <;> cases h
  rename_i hhere hup hlast
  exact ⟨hlast, hhere, hup⟩

/-- A last part that is no dot is a name. -/
theorem isName_of_last (hlast : (Route.ofText p.text).parts.getLast? = some name) (hhere : name ≠ ".") (hup : name ≠ "..") :
    IsName name := by
  refine ⟨?_, hhere, hup⟩
  have hmem := List.mem_of_getLast? hlast
  exact of_decide_eq_true (List.mem_filter.1 hmem).2

/-- A path whose last name is found names an entry of the directory there. -/
theorem names_of_lastName {unnamed : LastPart → Errno} {x : Route × Place} (h : t.lastName p unnamed = .ok x) :
    ∃ d name, x = (.ofText p.text, d ++ [name]) ∧ Names t p d name := by
  obtain ⟨r, hroute, h⟩ := of_bind_ok h
  obtain rfl := route_ok hroute
  obtain ⟨d, hdirectory, h⟩ := of_bind_ok h
  split at h
  · rename_i name hlast
    split at h
    · cases h
    · rename_i hshort
      cases h
      obtain ⟨hlast, hhere, hup⟩ := last_name hlast
      exact ⟨d, name, rfl, ⟨isName_of_last hlast hhere hup, hlast, directoryOf_ok.1 hdirectory⟩, hroute, Nat.not_lt.1 hshort⟩
  · cases h

namespace Leads

/-- A path leads to the same entry in a tree in which more stands. -/
theorem mono (h : Leads t p d name) (hsub : t.Within t') : Leads t' p d name :=
  { h with walk := walk_mono hsub h.walk }

/-- What a path leads to does not depend on how it was found. -/
theorem unique {d' : Place} {name' : String} (h : Leads t p d name) (h' : Leads t p d' name') : d' = d ∧ name' = name := by
  have hlanding := Except.ok.inj (h.walk.symm.trans h'.walk)
  exact ⟨(Landing.found.inj hlanding).symm, (Option.some.inj (h.last.symm.trans h'.last)).symm⟩

/-- The last part of a path is the name, with a slash behind it or none. -/
theorem steps_eq (h : Leads t p d name) :
    (Route.ofText p.text).steps = (Route.ofText p.text).parts.dropLast ++ name :: if (Route.ofText p.text).slash then [""] else [] := by
  have hparts : (Route.ofText p.text).parts.dropLast ++ [name] = (Route.ofText p.text).parts :=
    List.dropLast_append_getLast? name h.last
  unfold Route.steps
  split
  · nth_rewrite 1 [← hparts]
    rw [List.append_assoc, List.singleton_append]
  · exact hparts.symm

/-- From the directory on, the name is what is left, and a slash behind it. -/
theorem walk_steps (h : Leads t p d name) :
    ∃ m, ∀ purpose, t.walk purpose linkLimit [] (Route.ofText p.text).steps =
      t.walk purpose m d (name :: if (Route.ofText p.text).slash then [""] else []) := by
  obtain ⟨m, hm⟩ := walk_through h.walk
  exact ⟨m, fun purpose => by rw [h.steps_eq, hm purpose name _ h.isName.1]⟩

/-- The last part of a path that leads to an entry is its name. -/
theorem lastName_eq (h : Leads t p d name) : (Route.ofText p.text).last = .name name := by
  obtain ⟨_, hhere, hup⟩ := h.isName
  unfold Route.last
  rw [h.last]
  split <;> simp_all

end Leads

namespace Names

/-- A path names the same entry in a tree in which more stands. -/
theorem mono (h : Names t p d name) (hsub : t.Within t') : Names t' p d name :=
  { h with toLeads := h.toLeads.mono hsub }

/-- The last name of a path that names an entry is found. -/
theorem lastName (h : Names t p d name) (unnamed : LastPart → Errno) :
    t.lastName p unnamed = .ok (.ofText p.text, d ++ [name]) := by
  unfold FileTree.lastName
  rw [h.asked]
  dsimp only [bind, Except.bind]
  rw [directoryOf_ok.2 h.walk, h.lastName_eq]
  dsimp only
  rw [if_neg (Nat.not_lt.2 h.short)]

end Names

/-! ## A free entry -/

/-- In a tree in which all stands in directories a path names an entry that is free. -/
structure Vacancy (t : FileTree) (p : Path) (d : Place) (name : String) : Prop extends Names t p d name where
  rooted : t.Rooted
  free : t.at? (d ++ [name]) = none

/-- What was put at a free place and dropped again is as if it had never been there. -/
theorem drop_put {place : Place} (hplace : place ≠ []) (hfree : t.at? place = none) (o : FileObject) :
    (t.put place o).drop place = t := by
  have hget : t.objects.get? place = none := by rwa [at?, if_neg (by simpa using hplace)] at hfree
  unfold FileTree.drop FileTree.put
  dsimp only
  rw [SortedMap.erase_insert, SortedMap.erase_of_get?_eq_none hget]

/-- Nothing stands right below where nothing is below. -/
theorem at?_of_hasBelow {place : Place} (h : t.hasBelow place = false) (name : String) : t.at? (place ++ [name]) = none := by
  cases hat : t.at? (place ++ [name]) with
  | none => rfl
  | some o =>
    rw [at?, if_neg (by simp)] at hat
    have hmem : place ++ [name] ∈ t.objects.keys := List.mem_map_of_mem (SortedMap.mem_of_find hat)
    have hbelow := List.any_eq_false.1 h _ hmem
    simp at hbelow

/-- There is nothing below a place if nothing is found there. -/
theorem hasBelow_of_at? {place : Place} (h : ∀ q, q ≠ [] → t.at? (place ++ q) = none) : t.hasBelow place = false := by
  refine List.any_eq_false.2 fun q hq => ?_
  obtain ⟨⟨_, o⟩, hmem, rfl⟩ := List.mem_map.1 hq
  dsimp only
  rw [Bool.and_eq_true, decide_eq_true_eq, List.isPrefixOf_iff_prefix]
  rintro ⟨hlength, rest, rfl⟩
  have hrest : rest ≠ [] := by
    rintro rfl
    simp at hlength
  have hat : t.at? (place ++ rest) = some o := by
    rw [at?, if_neg (by simp [hrest])]
    exact SortedMap.find_of_mem t.objects.ascending hmem
  cases hat.symm.trans (h rest hrest)

namespace Vacancy

variable {o : FileObject}

/-- A vacancy is one of a directory. -/
theorem directory (h : Vacancy t p d name) : ∃ mode, t.at? d = some (.directory mode) :=
  directory_of_walk h.rooted (at?_nil t) h.walk

/-- What is put at a vacancy leaves the rest where it was. -/
theorem within (h : Vacancy t p d name) (o : FileObject) : t.Within (t.put (d ++ [name]) o) := by
  intro q o' hat
  rw [at?_put t (by simp), if_neg, hat]
  rintro rfl
  cases hat.symm.trans h.free

/-- What is put at a vacancy stands in a directory. -/
theorem rooted_put (h : Vacancy t p d name) (o : FileObject) : (t.put (d ++ [name]) o).Rooted := by
  obtain ⟨mode, hmode⟩ := h.directory
  exact h.rooted.put hmode h.free o

end Vacancy

/-! ## What a program asks of the files -/

/-- A directory is made at a vacancy, and nothing else is changed. -/
theorem makeDirectory_ok (ht : t.Rooted) {mode : Nat} (h : t.makeDirectory mode p = .ok t') :
    ∃ d name, Vacancy t p d name ∧ t' = t.put (d ++ [name]) (.directory (grantedMode mode)) := by
  obtain ⟨_, hname, h⟩ := of_bind_ok h
  obtain ⟨d, name, rfl, hnames⟩ := names_of_lastName hname
  dsimp only at h
  split at h
  · cases h
  · rename_i hfree
    cases h
    exact ⟨d, name, ⟨hnames, ht, hfree⟩, rfl⟩

/-- An object is placed at a vacancy, and nothing else is changed. -/
theorem placeNew_ok (ht : t.Rooted) {taken : Errno} {o : FileObject} (h : t.placeNew p taken o = .ok t') :
    ∃ d name, Vacancy t p d name ∧ t' = t.put (d ++ [name]) o := by
  obtain ⟨_, hname, h⟩ := of_bind_ok h
  obtain ⟨d, name, rfl, hnames⟩ := names_of_lastName hname
  dsimp only at h
  split at h
  · cases h
  · rename_i hfree
    split at h <;> cases h
    exact ⟨d, name, ⟨hnames, ht, hfree⟩, rfl⟩

/-- Making a file leaves all in directories. -/
theorem rooted_createFile (ht : t.Rooted) (h : t.createFile p = .ok t') : t'.Rooted := by
  obtain ⟨landing, hland, h⟩ := of_bind_ok h
  obtain ⟨_, hwalk⟩ := land_ok.1 hland
  cases landing with
  | found place =>
    dsimp only at h
    split at h <;> cases h
    exact ht
  | missing d name =>
    cases h
    obtain ⟨⟨mode, hmode⟩, hfree⟩ := missing_of_walk ht (at?_nil t) hwalk
    exact ht.put hmode hfree _

/-- Removing a directory leaves all in directories, as it must be empty. -/
theorem rooted_removeDirectory (ht : t.Rooted) (h : t.removeDirectory p = .ok t') : t'.Rooted := by
  obtain ⟨_, hname, h⟩ := of_bind_ok h
  obtain ⟨d, name, rfl, hnames⟩ := names_of_lastName hname
  dsimp only at h
  split at h
  · cases h
  · split at h
    · cases h
    · rename_i hbelow
      cases h
      exact ht.drop (at?_of_hasBelow (Bool.eq_false_iff.2 hbelow)) (by simp)
  · cases h

/-- Removing a file leaves all in directories. -/
theorem rooted_removeFile (ht : t.Rooted) (h : t.removeFile p = .ok t') : t'.Rooted := by
  obtain ⟨_, hname, h⟩ := of_bind_ok h
  obtain ⟨d, name, rfl, hnames⟩ := names_of_lastName hname
  dsimp only at h
  split at h
  · cases h
  · cases h
  · rename_i o hdirectory hat
    split at h <;> cases h
    -- only a directory has something below it
    refine ht.drop (fun name' => ?_) (by simp)
    cases hbelow : t.at? (d ++ [name] ++ [name']) with
    | none => rfl
    | some o' =>
      obtain ⟨mode, hmode⟩ := ht _ _ _ hbelow
      cases hdirectory mode (Option.some.inj (hat.symm.trans hmode))

/-- Seeing to it that there is a directory leaves all in directories. -/
theorem rooted_ensureDirectory (ht : t.Rooted) (mode : Nat) (p : Path) : (t.ensureDirectory mode p).2.Rooted := by
  unfold ensureDirectory
  split
  · rename_i hmade
    obtain ⟨d, name, hvacancy, rfl⟩ := makeDirectory_ok ht hmade
    exact hvacancy.rooted_put _
  · exact ht

/-- Making the directories of a path leaves all in directories, even if it fails on the way. -/
theorem rooted_makeDirectories (ht : t.Rooted) (mode levels : Nat) (p : Path) :
    (makeDirectoriesWithin mode levels p t).2.Rooted := by
  induction levels generalizing p with
  | zero => exact ht
  | succ levels ih =>
    rw [makeDirectoriesWithin]
    split
    · exact ht
    · split
      · rename_i hmade
        obtain ⟨d, name, hvacancy, rfl⟩ := makeDirectory_ok ht hmade
        exact hvacancy.rooted_put _
      · split
        · split
          · exact ht
          · rename_i above _
            have habove := ih above
            rcases hmade : makeDirectoriesWithin mode levels above t with ⟨_ | _, u⟩ <;> rw [hmade] at habove
            · exact habove
            · exact rooted_ensureDirectory habove mode p
        · exact ht

/-- What changes a tree is not refused. -/
theorem of_change_ok {result : Except IoError FileTree} (h : t.change result = (.ok (), t')) : result = .ok t' := by
  cases result with
  | error e => cases h
  | ok files =>
    cases h
    rfl

/-- A change that keeps all in directories where it succeeds keeps them so. -/
theorem rooted_change {result : Except IoError FileTree} (ht : t.Rooted) (h : ∀ t', result = .ok t' → t'.Rooted) :
    (t.change result).2.Rooted := by
  cases result with
  | error e => exact ht
  | ok t' => exact h t' rfl

/-- Whatever is asked of the files, all that stands somewhere stands in a directory. -/
theorem rooted_answer (ht : t.Rooted) (c : FileCall) : (t.answer c).2.Rooted := by
  cases c with
  | stat p | canonical p | counts p => exact ht
  | makeDirectories mode p => exact rooted_makeDirectories ht mode _ p
  | createFile p => exact rooted_change ht fun _ => rooted_createFile ht
  | removeDirectory p => exact rooted_change ht fun _ => rooted_removeDirectory ht
  | removeFile p => exact rooted_change ht fun _ => rooted_removeFile ht
  | bindSocket p =>
    refine rooted_change ht fun t' hbound => ?_
    unfold bindSocket at hbound
    split at hbound
    · cases hbound
    · obtain ⟨d, name, hvacancy, rfl⟩ := placeNew_ok ht hbound
      exact hvacancy.rooted_put _

/-- A tree is rooted if each thing that is listed stands in a directory. -/
theorem rooted_of_entries
    (h : ∀ e ∈ t.objects.entries, (t.at? e.1.dropLast).any fun o => o matches .directory _) : t.Rooted := by
  intro d name o hat
  rw [at?, if_neg (by simp)] at hat
  have hdirectory := h _ (SortedMap.mem_of_find hat)
  rw [List.dropLast_concat] at hdirectory
  cases habove : t.at? d with
  | none =>
    rw [habove] at hdirectory
    cases hdirectory
  | some o =>
    rw [habove] at hdirectory
    cases o with
    | directory mode => exact ⟨mode, rfl⟩
    | file mode => cases hdirectory
    | link target => cases hdirectory

/-- In the standard tree all stands in directories. -/
theorem rooted_standard : standard.Rooted := rooted_of_entries (by decide +kernel)

end VolumeDriver.Files.FileTree
