import VolumeDriver.Mount.Options

/-!
# How the options of a mount are sorted

What a list of options adds to the options of the two commands of a bind mount, and so what plain and sensitive options come to
(`ofOptions_eq`): each side keeps its order, and of the sensitive options no other than the one for a network is told. So the second
command has every option that was asked for as often as it was, but `bind`, which both commands have once (`ofOptions_sorts`).
-/

namespace VolumeDriver.BindOptions

/-- The option of network mounts is not the one of bind mounts. -/
theorem networkName_ne_bindName : networkName ≠ bindName := by decide

/-- What options add, whatever came before them. -/
theorem foldl_add (isSensitive : Bool) (options : List String) (b : BindOptions) : options.foldl (add isSensitive) b =
    { isBind := b.isBind || decide (bindName ∈ options)
      bind := b.bind ++ options.filter (· = networkName)
      remount := b.remount ++ options.filter fun option => option = networkName ∨ isSensitive = false ∧ option ≠ bindName
      sensitive := b.sensitive ++ options.filter fun option => isSensitive = true ∧ option ≠ bindName ∧ option ≠ networkName } := by
  induction options generalizing b with
  | nil => simp
  | cons option options ih =>
    rw [List.foldl_cons, ih, add]
    split
    · rename_i hbind
      simp [hbind, networkName_ne_bindName.symm]
    · rename_i hbind
      split
      · rename_i hnetwork
        simp [hnetwork, networkName_ne_bindName.symm]
      · rename_i hnetwork
        cases isSensitive <;> simp [hbind, Ne.symm hbind, hnetwork]

/-- What plain and sensitive options come to. -/
theorem ofOptions_eq (options sensitive : List String) : ofOptions options sensitive =
    { isBind := decide (bindName ∈ options ∨ bindName ∈ sensitive)
      bind := bindName :: (options ++ sensitive).filter (· = networkName)
      remount := bindName :: "remount" :: (options.filter (· ≠ bindName) ++ sensitive.filter (· = networkName))
      sensitive := sensitive.filter fun option => option ≠ bindName ∧ option ≠ networkName } := by
  have hplain : options.filter (fun option => option = networkName ∨ option ≠ bindName) = options.filter (· ≠ bindName) := by
    refine List.filter_congr fun option _ => decide_eq_decide.2 (or_iff_right_of_imp ?_)
    rintro rfl
    exact networkName_ne_bindName
  rw [ofOptions, foldl_add, foldl_add, start]
  simpa using hplain

/-- A sensitive option other than `bind` is told if it is the one for a network, and passed on as sensitive if it is not. -/
theorem sensitive_perm (sensitive : List String) :
    (sensitive.filter (· = networkName) ++ sensitive.filter fun option => option ≠ bindName ∧ option ≠ networkName).Perm
      (sensitive.filter (· ≠ bindName)) := by
  have hnetwork : (sensitive.filter (· ≠ bindName)).filter (· = networkName) = sensitive.filter (· = networkName) := by
    rw [List.filter_filter]
    refine List.filter_congr fun option _ => ?_
    rw [← Bool.decide_and]
    refine decide_eq_decide.2 (and_iff_left_of_imp ?_)
    rintro rfl
    exact networkName_ne_bindName
  have hrest : (sensitive.filter (· ≠ bindName)).filter (fun option => !decide (option = networkName)) =
      sensitive.filter fun option => option ≠ bindName ∧ option ≠ networkName := by
    rw [List.filter_filter]
    refine List.filter_congr fun option _ => ?_
    rw [← decide_not, ← Bool.decide_and]
    exact decide_eq_decide.2 and_comm
  rw [← hnetwork, ← hrest]
  exact List.filter_append_perm _ _

section Sorted

variable (options sensitive : List String)

/-- The first command of a bind mount binds, and waits for the network as often as it was said. -/
theorem bind_ofOptions : (ofOptions options sensitive).bind =
    bindName :: List.replicate (options.count networkName + sensitive.count networkName) networkName := by
  rw [ofOptions_eq, List.filter_eq, List.count_append]

/-- The second command of a bind mount remounts with all other options, in order. -/
theorem remount_ofOptions : (ofOptions options sensitive).remount =
    bindName :: "remount" :: (options.filter (· ≠ bindName) ++ List.replicate (sensitive.count networkName) networkName) := by
  rw [ofOptions_eq, ← List.filter_eq]

/-- The second command has what was asked for, each option as often as it was, behind `bind` and `remount`. -/
theorem remount_perm : ((ofOptions options sensitive).remount ++ (ofOptions options sensitive).sensitive).Perm
    (bindName :: "remount" :: (options ++ sensitive).filter (· ≠ bindName)) := by
  simp only [ofOptions_eq, List.filter_append, List.cons_append, List.append_assoc]
  exact (((sensitive_perm sensitive).append_left _).cons _).cons _

/-- No option that was asked for is missing from the second command, `bind` included. -/
theorem subset_remount :
    options ++ sensitive ⊆ (ofOptions options sensitive).remount ++ (ofOptions options sensitive).sensitive := by
  intro option hoption
  rw [(remount_perm options sensitive).mem_iff]
  by_cases hbind : option = bindName
  · exact hbind ▸ List.mem_cons_self
  · exact List.mem_cons_of_mem _ (List.mem_cons_of_mem _ (List.mem_filter.2 ⟨hoption, decide_eq_true hbind⟩))

/-- What is told of the commands is among the plain options, if it is none of the three words that are always told. -/
theorem told_subset : (ofOptions options sensitive).bind ++ (ofOptions options sensitive).remount ⊆
    [bindName, "remount", networkName] ++ options := by
  have hnetwork (n : Nat) : List.replicate n networkName ⊆ [bindName, "remount", networkName] ++ options := by
    intro option hoption
    rw [List.eq_of_mem_replicate hoption]
    simp
  rw [bind_ofOptions, remount_ofOptions]
  refine List.append_subset.2 ⟨List.cons_subset.2 ⟨by simp, hnetwork _⟩, ?_⟩
  refine List.cons_subset.2 ⟨by simp, List.cons_subset.2 ⟨by simp, List.append_subset.2 ⟨?_, hnetwork _⟩⟩⟩
  exact fun option hoption => List.mem_append_right _ (List.mem_filter.1 hoption).1

end Sorted

/-- How plain and sensitive options are sorted. A bind mount is asked for if `bind` is among the options of either kind. The first command
has `bind` and each option for a network; the second has `bind`, `remount`, the plain options but `bind` in their order, and each sensitive
option for a network; and the sensitive options of both are the others but `bind`, in their order. So, beside the two words, the second
command has every option but `bind` as often as it was asked for. -/
structure Sorts (options sensitive : List String) (b : BindOptions) : Prop where
  isBind : b.isBind = true ↔ "bind" ∈ options ∨ "bind" ∈ sensitive
  bind : b.bind = "bind" :: List.replicate (options.count "_netdev" + sensitive.count "_netdev") "_netdev"
  remount : b.remount =
    "bind" :: "remount" :: (options.filter (· ≠ "bind") ++ List.replicate (sensitive.count "_netdev") "_netdev")
  rest : b.sensitive = sensitive.filter fun option => option ≠ "bind" ∧ option ≠ "_netdev"
  each : (b.remount ++ b.sensitive).Perm ("bind" :: "remount" :: (options ++ sensitive).filter (· ≠ "bind"))
  all : options ++ sensitive ⊆ b.remount ++ b.sensitive
  told : b.bind ++ b.remount ⊆ ["bind", "remount", "_netdev"] ++ options

/-- Options are sorted so, and what is told of the two commands would be the same without the sensitive options but the one for a
network. -/
theorem ofOptions_sorts (options sensitive : List String) :
    Sorts options sensitive (ofOptions options sensitive) ∧
      (ofOptions options sensitive).bind = (ofOptions options (sensitive.filter (· = "_netdev"))).bind ∧
      (ofOptions options sensitive).remount = (ofOptions options (sensitive.filter (· = "_netdev"))).remount := by
  have hkept : (sensitive.filter (· = "_netdev")).count networkName = sensitive.count networkName :=
    List.count_filter (decide_eq_true rfl)
  have hbind : (ofOptions options sensitive).isBind = true ↔ "bind" ∈ options ∨ "bind" ∈ sensitive := by
    rw [ofOptions_eq]
    exact decide_eq_true_iff
  refine ⟨?_, by rw [bind_ofOptions, bind_ofOptions, hkept], by rw [remount_ofOptions, remount_ofOptions, hkept]⟩
  exact {
    isBind := hbind
    bind := bind_ofOptions options sensitive
    remount := remount_ofOptions options sensitive
    rest := congrArg BindOptions.sensitive (ofOptions_eq options sensitive)
    each := remount_perm options sensitive
    all := subset_remount options sensitive
    told := told_subset options sensitive }

example : ofOptions ["ro", "_netdev", "bind"] ["password=x", "bind", "_netdev"] =
    ⟨true, ["bind", "_netdev", "_netdev"], ["bind", "remount", "ro", "_netdev", "_netdev"], ["password=x"]⟩ := by decide

end VolumeDriver.BindOptions
