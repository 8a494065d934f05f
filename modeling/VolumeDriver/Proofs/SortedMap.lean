import VolumeDriver.SortedMap

/-!
# Maps as sets of bindings

Two maps that bind alike are the same (`SortedMap.ext`), because the entries of a map ascend; so what an operation does to a
map is known from what it does to `get?`. Here too: what binding a key does to the values of a map.
-/

namespace VolumeDriver.SortedMap

variable {κ α : Type} [LE κ] [LT κ] [Std.LawfulOrderLT κ] [Std.IsLinearOrder κ] [DecidableLT κ] [DecidableEq κ]

omit [LE κ] [LT κ] [Std.LawfulOrderLT κ] [Std.IsLinearOrder κ] [DecidableLT κ] in
/-- What is found for a key is an entry. -/
theorem mem_of_find {k : κ} {a : α} {es : List (κ × α)} (h : find k es = some a) : (k, a) ∈ es := by
  induction es with
  | nil => simp [find] at h
  | cons d ds ih =>
    rw [find] at h
    split at h
    · rename_i hk
      simp only [Option.some.injEq] at h
      subst hk h
      exact List.mem_cons_self
    · exact List.mem_cons_of_mem _ (ih h)

omit [Std.IsLinearOrder κ] [DecidableLT κ] in
/-- Behind the head of ascending entries, its key is not found. -/
theorem find_tail {d : κ × α} {ds : List (κ × α)} (h : (d :: ds).Pairwise fun a b => a.1 < b.1) : find d.1 ds = none := by
  cases hf : find d.1 ds with
  | none => rfl
  | some a =>
    have hlt := (List.pairwise_cons.1 h).1 _ (mem_of_find hf)
    exact absurd hlt (Std.lt_irrefl)

omit [DecidableLT κ] in
/-- Of two ascending lists that find alike, neither head comes before the other. -/
theorem not_head_lt {d e : κ × α} {ds es : List (κ × α)} (he : (e :: es).Pairwise fun a b => a.1 < b.1)
    (hf : ∀ k, find k (d :: ds) = find k (e :: es)) : ¬ d.1 < e.1 := by
  intro hlt
  have hd : find d.1 (e :: es) = some d.2 := by rw [← hf]; simp [find]
  rcases List.mem_cons.1 (mem_of_find hd) with h | h
  · rw [← h] at hlt
    exact Std.lt_irrefl hlt
  · exact Std.lt_irrefl (Std.lt_trans hlt ((List.pairwise_cons.1 he).1 _ h))

omit [DecidableLT κ] in
/-- Sorted lists in which the same is found are equal. -/
theorem entries_ext {es es' : List (κ × α)} (h : es.Pairwise fun a b => a.1 < b.1) (h' : es'.Pairwise fun a b => a.1 < b.1)
    (hf : ∀ k, find k es = find k es') : es = es' := by
  induction es generalizing es' with
  | nil =>
    cases es' with
    | nil => rfl
    | cons e es' => simpa [find] using hf e.1
  | cons d ds ih =>
    cases es' with
    | nil => simpa [find] using hf d.1
    | cons e es' =>
      have hk : d.1 = e.1 := by
        rcases Std.lt_trichotomy d.1 e.1 with hlt | heq | hlt
        · exact absurd hlt (not_head_lt h' hf)
        · exact heq
        · exact absurd hlt (not_head_lt h fun k => (hf k).symm)
      have hv : d.2 = e.2 := by simpa [find, hk] using hf d.1
      have htail : ∀ k, find k ds = find k es' := by
        intro k
        by_cases hkd : k = d.1
        · rw [hkd, find_tail h, hk, find_tail h']
        · simpa [find, hkd, hk ▸ hkd] using hf k
      rw [ih (List.pairwise_cons.1 h).2 (List.pairwise_cons.1 h').2 htail, Prod.ext hk hv]

omit [DecidableLT κ] in
/-- Maps with the same bindings are the same. -/
theorem ext {m n : SortedMap κ α} (h : ∀ k, m.get? k = n.get? k) : m = n := by
  have he : m.entries = n.entries := entries_ext m.ascending n.ascending h
  cases m
  cases n
  cases he
  rfl

/-- Unbinding a key forgets what was bound to it last. -/
theorem erase_insert (m : SortedMap κ α) (k : κ) (a : α) : (m.insert k a).erase k = m.erase k := by
  apply ext
  intro j
  rw [get?_erase, get?_erase, get?_insert]
  split <;> rfl

/-- Binding a key forgets what was bound to it last. -/
theorem insert_insert (m : SortedMap κ α) (k : κ) (a b : α) : (m.insert k a).insert k b = m.insert k b := by
  apply ext
  intro j
  rw [get?_insert, get?_insert, get?_insert]
  split <;> rfl

omit [DecidableLT κ] in
/-- To unbind a key that is not bound changes nothing. -/
theorem erase_of_get?_eq_none {m : SortedMap κ α} {k : κ} (h : m.get? k = none) : m.erase k = m := by
  apply ext
  intro j
  rw [get?_erase]
  split
  · rename_i hj
    rw [hj, h]
  · rfl

/-- To bind a key to what it is bound to changes nothing. -/
theorem insert_of_get? {m : SortedMap κ α} {k : κ} {a : α} (h : m.get? k = some a) : m.insert k a = m := by
  apply ext
  intro j
  rw [get?_insert]
  split
  · rename_i hj
    rw [hj, h]
  · rfl

/-- What is bound after binding a key is the new binding or was bound before. -/
theorem of_get?_insert {m : SortedMap κ α} {k j : κ} {a b : α} (h : (m.insert k a).get? j = some b) :
    (j = k ∧ b = a) ∨ m.get? j = some b := by
  rw [get?_insert] at h
  split at h
  · rename_i hj
    exact Or.inl ⟨hj, (Option.some.inj h).symm⟩
  · exact Or.inr h

omit [LE κ] [Std.LawfulOrderLT κ] [Std.IsLinearOrder κ] [DecidableLT κ] in
/-- What is bound after unbinding a key was bound before. -/
theorem of_get?_erase {m : SortedMap κ α} {k j : κ} {b : α} (h : (m.erase k).get? j = some b) : m.get? j = some b := by
  rw [get?_erase] at h
  split at h
  · nomatch h
  · exact h

/-! ## Values -/

omit [LE κ] [Std.LawfulOrderLT κ] [Std.IsLinearOrder κ] in
/-- A binding is among the others once it was placed. -/
theorem mem_place_self (k : κ) (a : α) (es : List (κ × α)) : (k, a) ∈ place k a es := by
  induction es with
  | nil => simp [place]
  | cons d ds ih =>
    rw [place]
    split
    · exact List.mem_cons_self
    · split
      · exact List.mem_cons_self
      · exact List.mem_cons_of_mem _ ih

/-- The value just bound is a value of the map. -/
theorem mem_values_insert_self (m : SortedMap κ α) (k : κ) (a : α) : a ∈ (m.insert k a).values :=
  List.mem_map.2 ⟨(k, a), mem_place_self k a m.entries, rfl⟩

/-- A value of a map is the one just bound or was there before. -/
theorem mem_values_insert {m : SortedMap κ α} {k : κ} {a b : α} (h : b ∈ (m.insert k a).values) : b = a ∨ b ∈ m.values := by
  obtain ⟨e, he, rfl⟩ := List.mem_map.1 h
  rcases mem_place he with rfl | he
  · exact Or.inl rfl
  · exact Or.inr (List.mem_map_of_mem he)

omit [Std.IsLinearOrder κ] [DecidableLT κ] in
/-- An entry of ascending entries is what is found for its key. -/
theorem find_of_mem {k : κ} {a : α} {es : List (κ × α)} (h : es.Pairwise fun a b => a.1 < b.1) (hmem : (k, a) ∈ es) :
    find k es = some a := by
  induction es with
  | nil => nomatch hmem
  | cons d ds ih =>
    obtain ⟨hd, hds⟩ := List.pairwise_cons.1 h
    rw [find]
    rcases List.mem_cons.1 hmem with rfl | hmem
    · rw [if_pos rfl]
    · have hlt : d.1 < k := hd _ hmem
      rw [if_neg fun hk => Std.lt_irrefl (hk ▸ hlt), ih hds hmem]

omit [Std.IsLinearOrder κ] [DecidableLT κ] in
/-- The values of a map are what its keys are bound to. -/
theorem mem_values_iff {m : SortedMap κ α} {a : α} : a ∈ m.values ↔ ∃ k, m.get? k = some a := by
  constructor
  · intro h
    obtain ⟨⟨k, _⟩, he, rfl⟩ := List.mem_map.1 h
    exact ⟨k, find_of_mem m.ascending he⟩
  · rintro ⟨k, h⟩
    exact List.mem_map_of_mem (mem_of_find h)

/-- Placing a binding adds it to the entries with other keys. -/
theorem place_perm (k : κ) (a : α) {es : List (κ × α)} (h : es.Pairwise fun a b => a.1 < b.1) :
    (place k a es).Perm ((k, a) :: es.filter (·.1 ≠ k)) := by
  induction es with
  | nil => exact List.Perm.refl _
  | cons d ds ih =>
    obtain ⟨hd, hds⟩ := List.pairwise_cons.1 h
    have hall : ∀ j : κ, (∀ e ∈ ds, j < e.1) → ds.filter (·.1 ≠ j) = ds := by
      intro j hj
      refine List.filter_eq_self.2 fun e he => decide_eq_true fun heq => ?_
      exact Std.lt_irrefl (heq ▸ hj e he)
    rw [place]
    split
    · rename_i hk
      have hne : d.1 ≠ k := fun heq => Std.lt_irrefl (heq ▸ hk)
      rw [List.filter_cons, if_pos (decide_eq_true hne), hall k fun e he => Std.lt_trans hk (hd e he)]
    · split
      · rename_i hk
        rw [List.filter_cons, if_neg (by simp [hk]), hk, hall d.1 hd]
      · rename_i hk
        rw [List.filter_cons, if_pos (decide_eq_true (Ne.symm hk))]
        exact ((ih hds).cons d).trans (List.Perm.swap _ _ _)

/-- The values of a map in which a key was bound are the new value and those of the other keys. -/
theorem values_insert_perm (m : SortedMap κ α) (k : κ) (a : α) : (m.insert k a).values.Perm (a :: (m.erase k).values) :=
  (place_perm k a m.ascending).map Prod.snd

/-- The values of a map in which a key is bound are its value and those of the other keys. -/
theorem values_perm_of_get? {m : SortedMap κ α} {k : κ} {a : α} (h : m.get? k = some a) :
    m.values.Perm (a :: (m.erase k).values) := by
  rw [← insert_of_get? h, erase_insert]
  exact values_insert_perm m k a

/-! ## Bindings of a list -/

omit [LE κ] [LT κ] [Std.LawfulOrderLT κ] [Std.IsLinearOrder κ] [DecidableLT κ] in
/-- In two lists, the first is searched first. -/
theorem find_append (k : κ) (es ds : List (κ × α)) : find k (es ++ ds) = (find k es).or (find k ds) := by
  induction es with
  | nil => rfl
  | cons e es ih =>
    rw [List.cons_append, find, find, ih]
    split <;> rfl

omit [LE κ] [LT κ] [Std.LawfulOrderLT κ] [Std.IsLinearOrder κ] [DecidableLT κ] in
/-- Where no key is there twice, what is found is what is there. -/
theorem find_eq_some_iff {k : κ} {a : α} {es : List (κ × α)} (h : (es.map Prod.fst).Nodup) : find k es = some a ↔ (k, a) ∈ es := by
  refine ⟨mem_of_find, fun hmem => ?_⟩
  induction es with
  | nil => cases hmem
  | cons e es ih =>
    rw [List.map_cons, List.nodup_cons] at h
    rw [find]
    rcases List.mem_cons.1 hmem with rfl | hmem
    · rw [if_pos rfl]
    · rw [if_neg, ih h.2 hmem]
      rintro rfl
      exact h.1 (List.mem_map.2 ⟨_, hmem, rfl⟩)

omit [LE κ] [LT κ] [Std.LawfulOrderLT κ] [Std.IsLinearOrder κ] [DecidableLT κ] in
/-- Where no key is bound twice, the order makes no difference to what is found. -/
theorem find_perm {es ds : List (κ × α)} (h : es.Perm ds) (hkeys : (ds.map Prod.fst).Nodup) (k : κ) : find k es = find k ds := by
  refine Option.ext fun a => ?_
  rw [find_eq_some_iff ((h.map Prod.fst).nodup_iff.2 hkeys), find_eq_some_iff hkeys, h.mem_iff]

omit [Std.IsLinearOrder κ] [DecidableLT κ] [DecidableEq κ] in
/-- No key is bound twice in a map. -/
theorem nodup_keys (m : SortedMap κ α) : (m.toList.map Prod.fst).Nodup :=
  List.pairwise_map.2 (m.ascending.imp Std.ne_of_lt)

/-- Of several bindings for a key, the last counts. -/
theorem get?_foldl_insert (m : SortedMap κ α) (es : List (κ × α)) (k : κ) :
    (es.foldl (fun m e => m.insert e.1 e.2) m).get? k = (find k es.reverse).or (m.get? k) := by
  induction es generalizing m with
  | nil => rfl
  | cons e es ih =>
    rw [List.foldl_cons, ih, List.reverse_cons, find_append, Option.or_assoc, get?_insert, find, find]
    split <;> rfl

/-- A map of bindings holds the last of each key. -/
theorem get?_ofList (es : List (κ × α)) (k : κ) : (ofList es).get? k = find k es.reverse := by
  rw [ofList, get?_foldl_insert, get?_empty, Option.or_none]

/-- A key of both maps is bound as in the second. -/
theorem get?_union (m n : SortedMap κ α) (k : κ) : (m.union n).get? k = (n.get? k).or (m.get? k) := by
  rw [union, get?_foldl_insert, find_perm (List.reverse_perm n.entries) n.nodup_keys]
  rfl

/-- The bindings of a map, in any order, make the map again. -/
theorem ofList_of_perm {m : SortedMap κ α} {es : List (κ × α)} (h : es.Perm m.toList) : ofList es = m := by
  apply ext
  intro k
  rw [get?_ofList, find_perm ((List.reverse_perm es).trans h) m.nodup_keys]
  rfl

omit [LE κ] [LT κ] [Std.LawfulOrderLT κ] [Std.IsLinearOrder κ] [DecidableLT κ] in
/-- A key is not found exactly if nothing is bound to it. -/
theorem find_eq_none_iff {k : κ} {es : List (κ × α)} : find k es = none ↔ ∀ e ∈ es, e.1 ≠ k := by
  induction es with
  | nil => simp [find]
  | cons e es ih =>
    rw [find, List.forall_mem_cons, ← ih]
    split
    · rename_i hk
      simp [hk]
    · rename_i hk
      simp [Ne.symm hk]

omit [LE κ] [Std.LawfulOrderLT κ] [Std.IsLinearOrder κ] [DecidableLT κ] in
/-- A key is found exactly if it is among the keys. -/
theorem isSome_get?_iff {m : SortedMap κ α} {k : κ} : (m.get? k).isSome = true ↔ k ∈ m.keys := by
  rw [← Option.not_isNone, Bool.not_eq_true', Bool.eq_false_iff, ne_eq, Option.isNone_iff_eq_none, get?, find_eq_none_iff, keys]
  simp

omit [LE κ] [LT κ] [Std.LawfulOrderLT κ] [Std.IsLinearOrder κ] [DecidableLT κ] [DecidableEq κ] in
/-- A binding of a list behind which its key is not bound again. -/
def IsLast (k : κ) (a : α) (es : List (κ × α)) : Prop := ∃ before after, es = before ++ (k, a) :: after ∧ ∀ e ∈ after, e.1 ≠ k

omit [LE κ] [LT κ] [Std.LawfulOrderLT κ] [Std.IsLinearOrder κ] [DecidableLT κ] in
/-- From behind, the last binding of a key is found. -/
theorem find_reverse_iff {k : κ} {a : α} {es : List (κ × α)} : find k es.reverse = some a ↔ IsLast k a es := by
  constructor
  · intro h
    induction es with
    | nil => cases h
    | cons e es ih =>
      rw [List.reverse_cons, find_append] at h
      cases hbehind : find k es.reverse with
      | some b =>
        rw [hbehind, Option.some_or] at h
        obtain ⟨before, after, rfl, hafter⟩ := ih (hbehind.trans h)
        exact ⟨e :: before, after, rfl, hafter⟩
      | none =>
        -- the first binding is the last one for its key
        rw [hbehind, Option.none_or] at h
        have he : (k, a) = e := List.mem_singleton.1 (mem_of_find h)
        exact ⟨[], es, by rw [he, List.nil_append], by simpa using find_eq_none_iff.1 hbehind⟩
  · rintro ⟨before, after, rfl, hafter⟩
    have hnone : find k after.reverse = none := find_eq_none_iff.2 (by simpa using hafter)
    rw [List.reverse_append, List.reverse_cons, find_append, find_append, hnone, Option.none_or, find, if_pos rfl, Option.some_or]

/-- The map of a list binds a key as it is bound last. -/
theorem get?_ofList_iff {es : List (κ × α)} {k : κ} {a : α} : (ofList es).get? k = some a ↔ IsLast k a es := by
  rw [get?_ofList, find_reverse_iff]

end VolumeDriver.SortedMap
