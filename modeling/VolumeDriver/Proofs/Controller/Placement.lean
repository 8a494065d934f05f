import VolumeDriver.Proofs.Controller.Retries
import VolumeDriver.Proofs.Gateway.Recreation
import VolumeDriver.Proofs.Labels

/-!
# Where a volume is made, and its labels

A request for a volume is met by one under its name, new or found (`MetBy`). Its location is that of the first topology of the request
that has one (`Located`). A new volume has, for each key, the label of the first source that has one (`Labelled`); sources are merged in
the opposite order, since the last one counts.
-/

namespace VolumeDriver

open Csi Program

namespace Controller

variable {c : Controller} {r : Request.CreateVolume} {o : CreateOptions} {info : VolumeInfo} {s t : FaultyStore}

/-! ## Locations -/

/-- The topologies of a requirement, in the order in which they count. -/
def topologies (requirement : Option TopologyRequirement) : List StringMap :=
  requirement.elim [] fun q => q.preferred ++ q.requisite

/-- The location is that of the first topology that has one, or another if none has. -/
def Located (topologies : List StringMap) (otherwise location : String) : Prop :=
  (∃ before segments after, topologies = before ++ segments :: after ∧ segments.get? Plugin.locationKey = some location ∧
    ∀ other ∈ before, other.get? Plugin.locationKey = none) ∨
  ((∀ segments ∈ topologies, segments.get? Plugin.locationKey = none) ∧ location = otherwise)

/-- The location of a new volume is that of the first topology that has one, or else that of the controller. -/
theorem located_locationFor (c : Controller) (requirement : Option TopologyRequirement) :
    Located (topologies requirement) c.location (c.locationFor requirement) := by
  cases requirement with
  | none => exact .inr ⟨by simp [topologies], rfl⟩
  | some q =>
    rw [locationFor, topologies, Option.elim_some]
    cases hfirst : (q.preferred ++ q.requisite).findSome? fun segments => segments.get? Plugin.locationKey with
    | none => exact .inr ⟨by simpa using List.findSome?_eq_none_iff.1 hfirst, rfl⟩
    | some location =>
      obtain ⟨before, segments, after, hsplit, hlocation, hbefore⟩ := List.findSome?_eq_some_iff.1 hfirst
      exact .inl ⟨before, segments, after, hsplit, hlocation, hbefore⟩

/-! ## Labels -/

/-- The label that a parameter of the orchestrator becomes. -/
def orchestratorLabel (parameters : StringMap) (key : String) : Option String :=
  if key = "pvc-name" then parameters.get? "csi.storage.k8s.io/pvc/name"
  else if key = "pvc-namespace" then parameters.get? "csi.storage.k8s.io/pvc/namespace"
  else if key = "pv-name" then parameters.get? "csi.storage.k8s.io/pv/name"
  else none

/-- The label that an entry of a table stands for, if there is its parameter. -/
def labelOf (parameters : StringMap) (entry : String × String) : Option (String × String) :=
  (parameters.get? entry.1).map fun value => (entry.2, value)

/-- The first entry of a table for a key counts, if there is its parameter. -/
theorem find_labelOf_cons (parameters : StringMap) (entry : String × String) (table : List (String × String)) (key : String) :
    SortedMap.find key ((entry :: table).filterMap (labelOf parameters)) =
      (if key = entry.2 then parameters.get? entry.1 else none).or (SortedMap.find key (table.filterMap (labelOf parameters))) := by
  cases hvalue : parameters.get? entry.1 with
  | none =>
    have hlabel : labelOf parameters entry = none := by rw [labelOf, hvalue, Option.map_none]
    rw [List.filterMap_cons_none hlabel, ite_self, Option.none_or]
  | some value =>
    have hlabel : labelOf parameters entry = some (entry.2, value) := by rw [labelOf, hvalue, Option.map_some]
    rw [List.filterMap_cons_some hlabel, SortedMap.find]
    split <;> rfl

/-- The labels that come from the orchestrator, key by key. -/
theorem get?_orchestratorLabels (parameters : StringMap) (key : String) :
    (orchestratorLabels parameters).get? key = orchestratorLabel parameters key := by
  rw [orchestratorLabels, SortedMap.get?_ofList, ← List.filterMap_reverse]
  show SortedMap.find key (List.filterMap (labelOf parameters) [_, _, _]) = _
  rw [find_labelOf_cons, find_labelOf_cons, find_labelOf_cons, List.filterMap_nil, SortedMap.find, orchestratorLabel]
  split
  · simp_all
  · split
    · simp_all
    · split <;> simp_all

/-- The free labels of a request are those in the text of its parameter for labels, if it has one. -/
def FreeLabels (parameters free : StringMap) : Prop :=
  (parameters.get? Plugin.labelsKey).elim (free = .empty) fun text => Labels.parse text = .ok free

/-- For each key, the label comes from the first source that has one: the free labels, the orchestrator, the operator, the plugin. -/
def Labelled (c : Controller) (parameters labels : StringMap) : Prop :=
  ∃ free, FreeLabels parameters free ∧ ∀ key, labels.get? key =
    ((free.get? key).or <| (orchestratorLabel parameters key).or <| (c.extraLabels.get? key).or <|
      if key = "managed-by" then some "cloudvol-csi" else none)

/-- The labels that are put together for a request come from their sources in that order. -/
theorem labelled_of_labelsFor {parameters labels : StringMap} (h : c.labelsFor parameters = .ok labels) :
    c.Labelled parameters labels := by
  obtain ⟨free, hfree, rfl⟩ : ∃ free, FreeLabels parameters free ∧ Labels.merge
      [SortedMap.empty.insert Plugin.managedBy.1 Plugin.managedBy.2, c.extraLabels, orchestratorLabels parameters, free] = labels := by
    unfold labelsFor at h
    unfold FreeLabels
    cases htext : parameters.get? Plugin.labelsKey with
    | none =>
      rw [htext] at h
      exact ⟨.empty, rfl, Except.ok.inj h⟩
    | some text =>
      rw [htext] at h
      dsimp only at h
      cases hparse : Labels.parse text with
      | error e =>
        rw [hparse] at h
        cases h
      | ok free =>
        rw [hparse] at h
        exact ⟨free, hparse, Except.ok.inj h⟩
  refine ⟨free, hfree, fun key => ?_⟩
  have hmanaged : (SortedMap.empty.insert Plugin.managedBy.1 Plugin.managedBy.2 : StringMap).get? key =
      if key = "managed-by" then some "cloudvol-csi" else none := by
    rw [SortedMap.get?_insert, SortedMap.get?_empty]
    rfl
  rw [Labels.get?_merge, ← hmanaged, ← get?_orchestratorLabels]
  simp only [List.foldl_cons, List.foldl_nil, Option.or_none]

/-! ## What is told of a volume -/

/-- What is told of a volume that was asked for: its identifier, its size, its location, and the options that the request has for making
a filesystem on it. -/
structure Describes (r : Request.CreateVolume) (v : Volume) (info : VolumeInfo) : Prop where
  id : info.volumeId = toString v.id
  capacity : info.capacityBytes = v.sizeBytes
  topology : ∃ segments, info.accessibleTopology = [segments] ∧
    ∀ key, segments.get? key = if key = Plugin.locationKey then some v.location else none
  context : ∀ key, info.volumeContext.get? key = if key = Plugin.formatOptionsKey then r.parameters.get? key else none

/-- What is told of a volume describes it, if the context has no more than the options for its filesystem. -/
theorem describes_describe {r : Request.CreateVolume} {v : Volume} {context : StringMap}
    (h : ∀ key, context.get? key = if key = Plugin.formatOptionsKey then r.parameters.get? key else none) :
    Describes r v (describe v context) where
  id := rfl
  capacity := rfl
  topology := ⟨topology v.location, rfl, fun key => by rw [topology, SortedMap.get?_insert, SortedMap.get?_empty]⟩
  context := h

/-- A request that is met is met with the volume that the layer answers, described. -/
theorem create_of_createVolume (hok : (c.perform (.createVolume r)).run FaultyStore.answer s = (.ok info, t)) :
    ∃ o v, c.createOptions r = .ok o ∧ (Idempotent.create o).run FaultyStore.answer s = (.ok v, t) ∧ Describes r v info := by
  rw [perform_createVolume] at hok
  cases ho : c.createOptions r with
  | error e =>
    rw [createVolume_of_error ho] at hok
    cases hok
  | ok o =>
    rw [createVolume, ho] at hok
    dsimp only at hok
    rw [bind_eq, through_ask_bind, run_bind, Idempotent.layer] at hok
    cases hcreate : (Idempotent.create o).run FaultyStore.answer s with
    | mk reply u =>
      rw [hcreate] at hok
      cases reply with
      | ok v =>
        obtain ⟨hinfo, rfl⟩ := Prod.mk.inj hok
        obtain rfl := Except.ok.inj hinfo
        refine ⟨o, v, rfl, hcreate, describes_describe fun key => ?_⟩
        by_cases hkey : key = Plugin.formatOptionsKey
        · rw [if_pos hkey, hkey]
          cases r.parameters.get? Plugin.formatOptionsKey <;> simp
        · rw [if_neg hkey]
          cases r.parameters.get? Plugin.formatOptionsKey <;> simp [hkey]
      | error e => cases e <;> cases hok

/-- How a request for a volume is met by one that is stored under its name: by one that was there, which changes nothing, or by a new one
with its labels. -/
structure MetBy (c : Controller) (r : Request.CreateVolume) (s t : Store) (v : Volume) : Prop where
  named : t.findName r.name = some v
  alone : ∀ w ∈ t.volumes.values, w.name = r.name → w = v
  located : Located (topologies r.accessibilityRequirements) c.location v.location
  found : s.Taken r.name → t = s
  made : ¬ s.Taken r.name → s.volumes.get? v.id = none ∧ ∃ labels, t.labels.get? v.id = some labels ∧ c.Labelled r.parameters labels

/-- A request under a free name is met by the new volume. -/
theorem metBy_newVolume {s : Store} (hs : s.Distinct) (ho : c.createOptions r = .ok o) (hfree : ¬ s.Taken o.name) :
    c.MetBy r s (s.withNew o) (s.newVolume o) := by
  obtain ⟨hname, _, hlocation, hlabels⟩ := of_createOptions ho
  constructor
  case named => exact hname ▸ Store.findName_withNew hfree
  case alone =>
    intro w hw hnamed
    rcases SortedMap.mem_values_insert hw with rfl | hold
    · rfl
    · exact absurd ⟨w, hold, hnamed.trans hname.symm⟩ hfree
  case located =>
    rw [Store.newVolume, hlocation]
    exact located_locationFor c _
  case found => exact fun htaken => absurd (hname ▸ htaken) hfree
  case made =>
    refine fun _ => ⟨hs.get?_nextId, o.labels, ?_, labelled_of_labelsFor hlabels⟩
    rw [Store.withNew, Store.newVolume, SortedMap.get?_insert, if_pos rfl]

/-- A request under a taken name is met by a volume that its options accept. -/
theorem metBy_found {s : Store} {v : Volume} (hs : s.Distinct) (ho : c.createOptions r = .ok o) (hget : s.getByName o.name = .ok v)
    (haccepts : o.accepts v = true) : c.MetBy r s s v := by
  obtain ⟨hname, _, hlocation, _⟩ := of_createOptions ho
  obtain ⟨_, _, haccepted⟩ := CreateOptions.accepts_iff.1 haccepts
  obtain ⟨hv, hnamed⟩ := Store.mem_values_of_getByName hget
  rw [hname] at hnamed
  obtain ⟨id, hid⟩ := SortedMap.mem_values_iff.1 hv
  constructor
  case named => exact hnamed ▸ hs.findName_eq hid
  case alone => exact fun w hw hw' => hs.eq_of_name hid hw (hw'.trans hnamed.symm)
  case located =>
    rw [haccepted, hlocation]
    exact located_locationFor c _
  case found => exact fun _ => rfl
  case made => exact fun hfree => absurd ⟨v, hv, hnamed⟩ hfree

/-- A request for a volume that is answered with one is met by the volume that is told of. -/
theorem create_places (hs : s.store.Distinct) (hok : (c.perform (.createVolume r)).run FaultyStore.answer s = (.ok info, t)) :
    ∃ v, c.MetBy r s.store t.store v ∧ Describes r v info := by
  obtain ⟨o, v, ho, hcreate, hdescribes⟩ := create_of_createVolume hok
  rcases Idempotent.create_cases hcreate with ⟨hfree, rfl, hstore⟩ | ⟨hget, haccepts, hstore⟩ <;> rw [hstore]
  · exact ⟨_, metBy_newVolume hs ho hfree, hdescribes⟩
  · exact ⟨v, metBy_found hs ho hget haccepts, hdescribes⟩

/-- A controller whose operator has a name for what manages volumes. -/
def namedOperator : Controller := ⟨"fsn1", .ofList [("env", "prod"), ("managed-by", "operator")]⟩

/-- A request with free labels for a volume in the second of the preferred topologies. -/
def choosyRequest : Request.CreateVolume where
  name := "a"
  capacityRange := none
  volumeCapabilities := [⟨.singleNodeWriter, .block⟩]
  parameters := .ofList [("labels", "env=dev, tier = db"), ("csi.storage.k8s.io/pvc/name", "claim"), ("fsFormatOptions", "-m 0")]
  secrets := ⟨.empty⟩
  accessibilityRequirements := some ⟨[topology "hel1"], [.empty, topology "nbg1"]⟩

/-- A gateway with another volume. -/
def otherStored : FaultyStore := { store := ({} : Store).withNew ⟨"b", 10, 0, "hel1", .empty⟩ }

/-- What is told of the volume that is made for the request. -/
def choosyVolume : VolumeInfo := ⟨"2", 10 * gib, SortedMap.empty.insert "fsFormatOptions" "-m 0", [topology "nbg1"]⟩

/-- The second preferred topology is the first with a location, and the free labels come before those of the operator. -/
theorem create_places_choosy :
    ∃ t, otherStored.store.Distinct ∧
      (namedOperator.perform (.createVolume choosyRequest)).run FaultyStore.answer otherStored = (.ok choosyVolume, t) ∧
      (t.store.labels.get? ⟨2⟩).map (·.toList) =
        some [("env", "dev"), ("managed-by", "operator"), ("pvc-name", "claim"), ("tier", "db")] ∧
      ∃ v, namedOperator.MetBy choosyRequest otherStored.store t.store v ∧ Describes choosyRequest v choosyVolume := by
  have hempty : ({} : Store).Distinct := ⟨List.nodup_nil, fun id v h => by cases h⟩
  have hs : otherStored.store.Distinct := hempty.withNew (by simp [Store.Taken, SortedMap.values, SortedMap.empty]) (by decide)
  have hok : (namedOperator.perform (.createVolume choosyRequest)).run FaultyStore.answer otherStored = (.ok choosyVolume, _) := rfl
  exact ⟨_, hs, hok, by rfl, create_places hs hok⟩

end Controller

end VolumeDriver
