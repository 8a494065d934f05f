import VolumeDriver.Disk
import VolumeDriver.Proofs.Text.Words

/-!
# What a probe says of a device

A device is taken for blank exactly if its probe says so (`formatOf_eq_blank_iff`): it found nothing, or it told of neither a
filesystem nor a partition table. Of a report that tells of one type, that type is read (`ofReport_type`).
-/

namespace VolumeDriver

namespace DiskFormat

/-- The line, trimmed, tells a value that is not empty for the key. -/
def Tells (key : String) (line : List Char) : Prop :=
  ∃ value : List Char, value ≠ [] ∧ Text.trimChars line = key.toList ++ ['='] ++ value

/-- There is no value for a key exactly if no line tells one. -/
theorem lastValue_eq_none_iff {key : String} {lines : List (List Char)} :
    lastValue key lines = none ↔ ∀ line ∈ lines, ¬ Tells key line := by
  rw [lastValue, List.getLast?_eq_none_iff, List.filterMap_eq_nil_iff]
  refine forall₂_congr fun line _ => ?_
  constructor
  · rintro h ⟨value, hne, htrim⟩
    obtain ⟨c, cs, rfl⟩ := List.exists_cons_of_ne_nil hne
    rw [Text.afterChars_eq_some_iff.2 htrim] at h
    nomatch h
  · intro h
    split
    · rename_i c cs hafter
      exact absurd ⟨c :: cs, by simp, Text.afterChars_eq_some_iff.1 hafter⟩ h
    · rfl

/-- A report is that of a blank device exactly if no line tells of a filesystem or of a partition table. -/
theorem ofReport_eq_blank_iff {report : String} :
    ofReport report = .blank ↔
      ∀ line ∈ Text.linesOf report.toList, ¬ Tells "TYPE" line ∧ ¬ Tells "PTTYPE" line := by
  simp only [imp_and, forall_and, ← lastValue_eq_none_iff]
  rw [ofReport]
  split
  · rename_i hname
    rw [hname]
    split <;> simp
  · rename_i hname hvalue
    rw [hname, hvalue]
    simp
  · rename_i hname hvalue
    rw [hname, hvalue]
    simp

/-- A report that tells of a type, and of nothing else. -/
def typeReport (type : String) : String := "TYPE=" ++ type ++ "\n"

/-- The type is read as it was reported, if there is no white space in it. -/
theorem ofReport_type {type : String} (hne : type ≠ "") (hunbroken : Text.Unbroken type.toList) :
    ofReport (typeReport type) = .filesystem type := by
  have hkey : Text.Unbroken "TYPE=".toList := by decide
  have hline : Text.Unbroken ("TYPE=".toList ++ type.toList) := fun c hc =>
    (List.mem_append.1 hc).elim (hkey c) (hunbroken c)
  have hlines : Text.linesOf (typeReport type).toList = ["TYPE=".toList ++ type.toList] := by
    rw [typeReport, String.toList_append, String.toList_append]
    exact Text.linesOf_line hline
  have htrim : Text.trimChars ("TYPE=".toList ++ type.toList) = "TYPE=".toList ++ type.toList :=
    Text.trimChars_eq_self_iff.2 ⟨fun c hc => hline c (List.mem_of_head? hc), fun c hc => hline c (List.mem_of_getLast? hc)⟩
  have hname : type ≠ partitionedName := by
    rintro rfl
    exact absurd (hunbroken ' ' (by decide)) (by decide)
  obtain ⟨c, cs, hcs⟩ := List.exists_cons_of_ne_nil (fun h => hne (String.toList_eq_nil_iff.1 h) : type.toList ≠ [])
  have hvalue : lastValue "TYPE" ["TYPE=".toList ++ type.toList] = some type.toList := by
    have hafter : Text.afterChars ("TYPE".toList ++ ['=']) (Text.trimChars ("TYPE=".toList ++ type.toList)) = some type.toList := by
      rw [htrim]
      exact Text.afterChars_eq_some_iff.2 rfl
    rw [lastValue, List.filterMap_cons, hafter, hcs]
    rfl
  rw [ofReport, hlines, hvalue]
  dsimp only
  rw [String.ofList_toList, if_neg hname]

end DiskFormat

/-- The outcome of a probe says that the device is blank: nothing was found, or no line tells of a filesystem or of a
partition table. -/
def CommandOutput.SaysBlank (o : CommandOutput) : Prop :=
  o.code = some 2 ∨
    o.code = some 0 ∧
      ∀ line ∈ Text.linesOf o.output.toList, ¬ DiskFormat.Tells "TYPE" line ∧ ¬ DiskFormat.Tells "PTTYPE" line

namespace Disk

/-- A device is taken for blank exactly if the outcome of the probe says so. -/
theorem formatOf_eq_blank_iff {device : Path} {o : CommandOutput} : formatOf device o = .ok .blank ↔ o.SaysBlank := by
  unfold formatOf CommandOutput.SaysBlank
  rw [← DiskFormat.ofReport_eq_blank_iff]
  by_cases hzero : o.code = some 0
  · simp [hzero]
  · by_cases htwo : o.code = some nothingFound
    · simp [htwo, nothingFound]
    · have htwo' : o.code ≠ some 2 := htwo
      simp [hzero, htwo, htwo']

end Disk

end VolumeDriver
