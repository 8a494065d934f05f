import Mathlib.Data.List.Induction
import VolumeDriver.Files.Tree

/-!
# Where a walk leads

A walk goes on part by part, and a link puts its own parts before those that are left (`walk_induct`). A walk that found its place
finds it in every larger tree (`walk_mono`). One that found a directory can be taken first, and the rest of the parts from there
(`walk_through`). In a tree in which all that stands somewhere stands in a directory (`Rooted`), a walk never leaves directories
(`directory_of_walk`).
-/

namespace VolumeDriver.Files

/-- The part is the name of something in a directory. -/
def IsName (part : String) : Prop := part ≠ "" ∧ part ≠ "." ∧ part ≠ ".."

namespace FileTree

variable {t t' : FileTree} {purpose : Purpose} {n : Nat} {here d : Place} {part : String} {rest : List String} {landing : Landing}

/-! ## One part -/

/-- How a walk goes on at a link. -/
def follow (t : FileTree) (purpose : Purpose) : Nat → Place → List String → Except Errno Landing
  | 0 => fun _ _ => .error .tooManyLinks
  | links + 1 => t.walk purpose links

/-- A walk, with what happens at links as a step of its own. -/
theorem walk_eq (t : FileTree) (purpose : Purpose) (n : Nat) : t.walk purpose n = t.walkWith purpose (t.follow purpose n) := by
  cases n <;> rfl

/-- The directory from which a link is followed. -/
def linkStart (here : Place) (target : String) : Place := if (Route.ofText target).absolute then [] else here

/-- A walk without steps ends where it begins. -/
@[simp]
theorem walk_nil : t.walk purpose n here [] = .ok (.found here) := by
  rw [walk_eq]
  rfl

/-- An empty part or a dot stays where it is. -/
theorem walk_idle (h : part = "" ∨ part = ".") : t.walk purpose n here (part :: rest) = t.walk purpose n here rest := by
  rw [walk_eq, walkWith, if_pos h]

/-- Two dots go up. -/
theorem walk_up : t.walk purpose n here (".." :: rest) = t.walk purpose n here.dropLast rest := by
  rw [walk_eq, walkWith, if_neg (by decide), if_pos rfl]

/-- A walk at a name: the name must not be too long, and something must be there unless it is the last. -/
theorem walk_name (hpart : IsName part) :
    t.walk purpose n here (part :: rest) =
      if purpose = .create ∧ rest = [""] then .error .isDirectory
      else if longestName < part.utf8ByteSize then .error .nameTooLong
      else
        match t.at? (here ++ [part]) with
        | none => if rest.isEmpty then .ok (.missing here part) else .error .noEntry
        | some (.directory _) => t.walk purpose n (here ++ [part]) rest
        | some (.file _) => if rest.isEmpty then .ok (.found (here ++ [part])) else .error .notDirectory
        | some (.link target) => t.follow purpose n (linkStart here target) ((Route.ofText target).steps ++ rest) := by
  rw [walk_eq, walkWith, if_neg (not_or.2 ⟨hpart.1, hpart.2.1⟩), if_neg hpart.2.2]
  rfl

/-- What it takes to walk past a name. -/
structure Passes (purpose : Purpose) (part : String) (rest : List String) : Prop where
  name : IsName part
  free : ¬ (purpose = .create ∧ rest = [""])
  short : part.utf8ByteSize ≤ longestName

/-- Whatever stands behind it, a name that is not too long is walked past in a search. -/
theorem Passes.find (hpart : IsName part) (hshort : part.utf8ByteSize ≤ longestName) (rest : List String) : Passes .find part rest :=
  ⟨hpart, by simp, hshort⟩

/-- A walk past a name depends on what stands there. -/
theorem walk_passes (h : Passes purpose part rest) :
    t.walk purpose n here (part :: rest) =
      match t.at? (here ++ [part]) with
      | none => if rest.isEmpty then .ok (.missing here part) else .error .noEntry
      | some (.directory _) => t.walk purpose n (here ++ [part]) rest
      | some (.file _) => if rest.isEmpty then .ok (.found (here ++ [part])) else .error .notDirectory
      | some (.link target) => t.follow purpose n (linkStart here target) ((Route.ofText target).steps ++ rest) := by
  rw [walk_name h.name, if_neg h.free, if_neg (Nat.not_lt.2 h.short)]

/-- A walk goes on in a directory. -/
theorem walk_directory (h : Passes purpose part rest) {mode : Nat} (hat : t.at? (here ++ [part]) = some (.directory mode)) :
    t.walk purpose n here (part :: rest) = t.walk purpose n (here ++ [part]) rest := by
  rw [walk_passes h, hat]

/-- A walk goes on at the target of a link, while it may follow one more. -/
theorem walk_link (h : Passes purpose part rest) {target : String} (hat : t.at? (here ++ [part]) = some (.link target)) :
    t.walk purpose (n + 1) here (part :: rest) =
      t.walk purpose n (linkStart here target) ((Route.ofText target).steps ++ rest) := by
  rw [walk_passes h, hat]
  rfl

/-- All that a walk past a name can come to. -/
inductive NameWalk (t : FileTree) (purpose : Purpose) (n : Nat) (here : Place) (part : String) (rest : List String)
    (landing : Landing) : Prop where
  | missing (hat : t.at? (here ++ [part]) = none) (hrest : rest = []) (hlanding : landing = .missing here part)
  | directory (mode : Nat) (hat : t.at? (here ++ [part]) = some (.directory mode))
      (hwalk : t.walk purpose n (here ++ [part]) rest = .ok landing)
  | file (mode : Nat) (hat : t.at? (here ++ [part]) = some (.file mode)) (hrest : rest = [])
      (hlanding : landing = .found (here ++ [part]))
  | link (k : Nat) (target : String) (hn : n = k + 1) (hat : t.at? (here ++ [part]) = some (.link target))
      (hwalk : t.walk purpose k (linkStart here target) ((Route.ofText target).steps ++ rest) = .ok landing)

/-- A walk past a name that lands comes to one of few ends. -/
theorem walk_name_ok (hpart : IsName part) (h : t.walk purpose n here (part :: rest) = .ok landing) :
    Passes purpose part rest ∧ NameWalk t purpose n here part rest landing := by
  rw [walk_name hpart] at h
  split at h
  · cases h
  rename_i hfree
  split at h
  · cases h
  rename_i hshort
  refine ⟨⟨hpart, hfree, Nat.not_lt.1 hshort⟩, ?_⟩
  split at h
  · rename_i hat
    split at h
    · rename_i hrest
      cases h
      exact .missing hat (List.isEmpty_iff.1 hrest) rfl
    · cases h
  · rename_i mode hat
    exact .directory mode hat h
  · rename_i mode hat
    split at h
    · rename_i hrest
      cases h
      exact .file mode hat (List.isEmpty_iff.1 hrest) rfl
    · cases h
  · rename_i target hat
    cases n with
    | zero => cases h
    | succ k => exact .link k target rfl hat h

/-- What holds of all that may be left of a walk holds of the walk: the parts behind the first, or what a link leads to, with
one link less to follow. -/
theorem walk_induct {motive : Nat → Place → List String → Prop} (nil : ∀ n here, motive n here [])
    (idle : ∀ n here part rest, part = "" ∨ part = "." → motive n here rest → motive n here (part :: rest))
    (up : ∀ n here rest, motive n here.dropLast rest → motive n here (".." :: rest))
    (name : ∀ n here part rest, IsName part → motive n (here ++ [part]) rest →
      (∀ k start steps, n = k + 1 → motive k start steps) → motive n here (part :: rest))
    (n : Nat) (here : Place) (parts : List String) : motive n here parts := by
  have hparts : ∀ n, (∀ k start steps, n = k + 1 → motive k start steps) → ∀ parts here, motive n here parts := by
    intro n hfollow parts
    induction parts with
    | nil => exact fun here => nil n here
    | cons part rest ih =>
      intro here
      by_cases hidle : part = "" ∨ part = "."
      · exact idle n here part rest hidle (ih here)
      · by_cases hup : part = ".."
        · rw [hup]
          exact up n here rest (ih _)
        · rw [not_or] at hidle
          exact name n here part rest ⟨hidle.1, hidle.2, hup⟩ (ih _) hfollow
  induction n generalizing here parts with
  | zero => exact hparts 0 nofun parts here
  | succ n ih =>
    refine hparts (n + 1) (fun k start steps hk => ?_) parts here
    cases hk
    exact ih start steps

/-! ## Larger trees, and walks in two parts -/

/-- What stands in one tree stands in the other. -/
def Within (t t' : FileTree) : Prop := ∀ q o, t.at? q = some o → t'.at? q = some o

/-- A walk that finds its place finds it in every larger tree. -/
theorem walk_mono (h : t.Within t') {parts : List String} (hwalk : t.walk purpose n here parts = .ok (.found d)) :
    t'.walk purpose n here parts = .ok (.found d) := by
  induction n, here, parts using walk_induct with
  | nil n here => rwa [walk_nil] at hwalk ⊢
  | idle n here part rest hpart ih =>
    rw [walk_idle hpart] at hwalk ⊢
    exact ih hwalk
  | up n here rest ih =>
    rw [walk_up] at hwalk ⊢
    exact ih hwalk
  | name n here part rest hpart ih hfollow =>
    obtain ⟨hpasses, hname⟩ := walk_name_ok hpart hwalk
    cases hname with
    | missing _ _ hlanding => cases hlanding
    | directory mode hat hrest =>
      rw [walk_directory hpasses (h _ _ hat)]
      exact ih hrest
    | file mode hat hrest hlanding =>
      rw [walk_passes hpasses, h _ _ hat, hrest, hlanding]
      rfl
    | link k target hn hat hrest =>
      subst hn
      rw [walk_link hpasses (h _ _ hat)]
      exact hfollow k _ _ rfl hrest

/-- A walk through a directory can be taken in two: to the directory, and from there with as many links to follow as are left,
whatever the rest is walked for. -/
theorem walk_through {init : List String} (hwalk : t.walk .find n here (init ++ ["."]) = .ok (.found d)) :
    ∃ m, ∀ purpose name rest, name ≠ "" → t.walk purpose n here (init ++ name :: rest) = t.walk purpose m d (name :: rest) := by
  induction n, here, init using walk_induct with
  | nil n here =>
    rw [List.nil_append, walk_idle (Or.inr rfl), walk_nil] at hwalk
    cases hwalk
    exact ⟨n, fun _ _ _ _ => rfl⟩
  | idle n here part init hpart ih =>
    rw [List.cons_append, walk_idle hpart] at hwalk
    obtain ⟨m, hm⟩ := ih hwalk
    refine ⟨m, fun purpose name rest hname => ?_⟩
    rw [List.cons_append, walk_idle hpart, hm purpose name rest hname]
  | up n here init ih =>
    rw [List.cons_append, walk_up] at hwalk
    obtain ⟨m, hm⟩ := ih hwalk
    refine ⟨m, fun purpose name rest hname => ?_⟩
    rw [List.cons_append, walk_up, hm purpose name rest hname]
  | name n here part init hpart ih hfollow =>
    rw [List.cons_append] at hwalk
    obtain ⟨hpasses, hnamed⟩ := walk_name_ok hpart hwalk
    have hany : ∀ (purpose : Purpose) (name : String) (rest : List String), name ≠ "" → Passes purpose part (init ++ name :: rest) := by
      refine fun purpose name rest hname => ⟨hpart, fun hslash => ?_, hpasses.short⟩
      have hsingle := hslash.2
      cases init with
      | nil => exact hname (List.cons.inj hsingle).1
      | cons first init => simp at hsingle
    cases hnamed with
    | missing _ hrest _ => simp at hrest
    | directory mode hat hrest =>
      obtain ⟨m, hm⟩ := ih hrest
      refine ⟨m, fun purpose name rest hname => ?_⟩
      rw [List.cons_append, walk_directory (hany purpose name rest hname) hat, hm purpose name rest hname]
    | file _ _ hrest _ => simp at hrest
    | link k target hn hat hrest =>
      subst hn
      rw [← List.append_assoc] at hrest
      obtain ⟨m, hm⟩ := hfollow k (linkStart here target) ((Route.ofText target).steps ++ init) rfl hrest
      refine ⟨m, fun purpose name rest hname => ?_⟩
      rw [List.cons_append, walk_link (hany purpose name rest hname) hat, ← List.append_assoc, hm purpose name rest hname]

/-- At a directory a walk can stay. -/
theorem walk_stay {parts : List String} {mode : Nat} (hwalk : t.walk .find n here parts = .ok (.found d))
    (hd : t.at? d = some (.directory mode)) : t.walk .find n here (parts ++ ["."]) = .ok (.found d) := by
  induction n, here, parts using walk_induct with
  | nil n here => rwa [List.nil_append, walk_idle (Or.inr rfl)]
  | idle n here part rest hpart ih =>
    rw [walk_idle hpart] at hwalk
    rw [List.cons_append, walk_idle hpart]
    exact ih hwalk
  | up n here rest ih =>
    rw [walk_up] at hwalk
    rw [List.cons_append, walk_up]
    exact ih hwalk
  | name n here part rest hpart ih hfollow =>
    obtain ⟨hpasses, hname⟩ := walk_name_ok hpart hwalk
    have hstays : Passes .find part (rest ++ ["."]) := .find hpart hpasses.short _
    rw [List.cons_append]
    cases hname with
    | missing _ _ hlanding => cases hlanding
    | directory mode hat hrest =>
      rw [walk_directory hstays hat]
      exact ih hrest
    | file mode hat _ hlanding =>
      cases hlanding
      cases hat.symm.trans hd
    | link k target hn hat hrest =>
      subst hn
      rw [walk_link hstays hat, ← List.append_assoc]
      exact hfollow k _ _ rfl hrest

/-- A slash at the end asks for a directory, as `.` does. -/
theorem walk_slash {parts : List String} : t.walk .find n here (parts ++ [""]) = t.walk .find n here (parts ++ ["."]) := by
  induction n, here, parts using walk_induct with
  | nil n here => rw [List.nil_append, List.nil_append, walk_idle (Or.inl rfl), walk_idle (Or.inr rfl)]
  | idle n here part rest hpart ih => rw [List.cons_append, List.cons_append, walk_idle hpart, walk_idle hpart, ih]
  | up n here rest ih => rw [List.cons_append, List.cons_append, walk_up, walk_up, ih]
  | name n here part rest hpart ih hfollow =>
    rw [List.cons_append, List.cons_append, walk_name hpart, walk_name hpart, ih]
    cases t.at? (here ++ [part]) with
    | none => simp
    | some o =>
      cases o with
      | directory mode => simp
      | file mode => simp
      | link target =>
        cases n with
        | zero => simp [follow]
        | succ k =>
          simp only [follow, ← List.append_assoc]
          rw [hfollow k _ _ rfl]
          simp

/-! ## Trees in which all stands in directories -/

/-- All that stands somewhere stands in a directory. -/
def Rooted (t : FileTree) : Prop :=
  ∀ d name o, t.at? (d ++ [name]) = some o → ∃ mode, t.at? d = some (.directory mode)

namespace Rooted

/-- What stands in a directory is in one that stands. -/
theorem dropLast (ht : t.Rooted) {mode : Nat} (h : t.at? d = some (.directory mode)) :
    ∃ mode, t.at? d.dropLast = some (.directory mode) := by
  rcases List.eq_nil_or_concat d with rfl | ⟨above, name, rfl⟩
  · exact ⟨_, h⟩
  · rw [List.concat_eq_append, List.dropLast_concat]
    rw [List.concat_eq_append] at h
    exact ht above name _ h

/-- Where nothing stands, nothing stands below. -/
theorem below (ht : t.Rooted) (h : t.at? d = none) (q : Place) : t.at? (d ++ q) = none := by
  induction q using List.reverseRecOn with
  | nil => rwa [List.append_nil]
  | append_singleton q name ih =>
    cases hat : t.at? (d ++ (q ++ [name])) with
    | none => rfl
    | some o =>
      rw [← List.append_assoc] at hat
      obtain ⟨mode, hmode⟩ := ht _ _ _ hat
      cases ih.symm.trans hmode

/-- What is put in a directory that stands leaves all in directories. -/
theorem put (ht : t.Rooted) {mode : Nat} {name : String} (hd : t.at? d = some (.directory mode)) (hfree : t.at? (d ++ [name]) = none)
    (o : FileObject) : (t.put (d ++ [name]) o).Rooted := by
  have hne : d ++ [name] ≠ [] := by simp
  intro above last o' hat
  have habove : ∀ mode, t.at? above = some (.directory mode) →
      (t.put (d ++ [name]) o).at? above = some (.directory mode) := by
    intro mode hmode
    rw [at?_put t hne, if_neg, hmode]
    rintro rfl
    cases hfree.symm.trans hmode
  rw [at?_put t hne] at hat
  split at hat
  · rename_i heq
    obtain ⟨rfl, _⟩ := List.append_inj' heq rfl
    exact ⟨mode, habove mode hd⟩
  · obtain ⟨mode', hmode'⟩ := ht above last o' hat
    exact ⟨mode', habove mode' hmode'⟩

/-- A place without anything below can be emptied. -/
theorem drop (ht : t.Rooted) (hbelow : ∀ name, t.at? (d ++ [name]) = none) (hd : d ≠ []) : (t.drop d).Rooted := by
  intro above name o hat
  rw [at?_drop t hd] at hat
  split at hat
  · nomatch hat
  · obtain ⟨mode, hmode⟩ := ht above name o hat
    refine ⟨mode, ?_⟩
    rw [at?_drop t hd, if_neg, hmode]
    rintro rfl
    nomatch (hbelow name).symm.trans hat

end Rooted

/-- Where a link is followed from is a directory. -/
theorem directory_of_linkStart {mode : Nat} (hhere : t.at? here = some (.directory mode)) (target : String) :
    ∃ mode, t.at? (linkStart here target) = some (.directory mode) := by
  unfold linkStart
  split
  · exact ⟨_, at?_nil t⟩
  · exact ⟨mode, hhere⟩

/-- A walk that stays where it ends, ends in a directory. -/
theorem directory_of_walk (ht : t.Rooted) {parts : List String} {mode : Nat} (hhere : t.at? here = some (.directory mode))
    (hwalk : t.walk purpose n here (parts ++ ["."]) = .ok (.found d)) : ∃ mode, t.at? d = some (.directory mode) := by
  induction n, here, parts using walk_induct generalizing mode with
  | nil n here =>
    rw [List.nil_append, walk_idle (Or.inr rfl), walk_nil] at hwalk
    cases hwalk
    exact ⟨mode, hhere⟩
  | idle n here part rest hpart ih =>
    rw [List.cons_append, walk_idle hpart] at hwalk
    exact ih hhere hwalk
  | up n here rest ih =>
    rw [List.cons_append, walk_up] at hwalk
    obtain ⟨mode, hmode⟩ := ht.dropLast hhere
    exact ih hmode hwalk
  | name n here part rest hpart ih hfollow =>
    rw [List.cons_append] at hwalk
    obtain ⟨_, hname⟩ := walk_name_ok hpart hwalk
    cases hname with
    | missing _ hrest _ => simp at hrest
    | directory mode hat hrest => exact ih hat hrest
    | file _ _ hrest _ => simp at hrest
    | link k target hn hat hrest =>
      obtain ⟨mode, hmode⟩ := directory_of_linkStart hhere target
      rw [← List.append_assoc] at hrest
      exact hfollow k _ _ hn hmode hrest

/-- What a walk finds missing is missing in a directory. -/
theorem missing_of_walk (ht : t.Rooted) {parts : List String} {name : String} {mode : Nat}
    (hhere : t.at? here = some (.directory mode)) (hwalk : t.walk purpose n here parts = .ok (.missing d name)) :
    (∃ mode, t.at? d = some (.directory mode)) ∧ t.at? (d ++ [name]) = none := by
  induction n, here, parts using walk_induct generalizing mode with
  | nil n here =>
    rw [walk_nil] at hwalk
    cases hwalk
  | idle n here part rest hpart ih =>
    rw [walk_idle hpart] at hwalk
    exact ih hhere hwalk
  | up n here rest ih =>
    rw [walk_up] at hwalk
    obtain ⟨mode, hmode⟩ := ht.dropLast hhere
    exact ih hmode hwalk
  | name n here part rest hpart ih hfollow =>
    obtain ⟨_, hname⟩ := walk_name_ok hpart hwalk
    cases hname with
    | missing hat _ hlanding =>
      cases hlanding
      exact ⟨⟨mode, hhere⟩, hat⟩
    | directory mode hat hrest => exact ih hat hrest
    | file _ _ _ hlanding => cases hlanding
    | link k target hn hat hrest =>
      obtain ⟨mode, hmode⟩ := directory_of_linkStart hhere target
      exact hfollow k _ _ hn hmode hrest

end FileTree

end VolumeDriver.Files
