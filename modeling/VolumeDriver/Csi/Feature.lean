/-!
# Features that a service declares

A set of features is a word with one bit for each feature; bits without a feature are dropped. In a message a feature is its
number, which counts from one in the order of the bits.
-/

namespace VolumeDriver.Csi

/-- A set of features out of so many. -/
structure FeatureSet (count : Nat) where
  bits : BitVec count
  deriving DecidableEq

namespace FeatureSet

variable {count : Nat}

/-- Keeps the bits of a word that stand for a feature. -/
def ofWord (count : Nat) (w : UInt32) : FeatureSet count := ⟨BitVec.ofNat count w.toNat⟩

def toWord (s : FeatureSet count) : UInt32 := s.bits.toNat.toUInt32

def empty : FeatureSet count := ⟨0⟩

/-- The features with the given numbers. -/
def ofNumbers (numbers : List Nat) : FeatureSet count :=
  ⟨numbers.foldl (fun bits n => bits ||| BitVec.twoPow count (n - 1)) 0⟩

/-- The numbers of the features, ascending. -/
def numbers (s : FeatureSet count) : List Nat :=
  ((List.range count).filter s.bits.getLsbD).map (· + 1)

end FeatureSet

/-- Features of a controller. -/
inductive ControllerFeature where
  | createDeleteVolume | publishUnpublishVolume | listVolumes | getCapacity | createDeleteSnapshot | listSnapshots
  | cloneVolume | publishReadonly | expandVolume | listVolumesPublishedNodes | volumeCondition | getVolume
  | singleNodeMultiWriter
  deriving DecidableEq, Repr

def ControllerFeature.number (f : ControllerFeature) : Nat := f.ctorIdx + 1

abbrev ControllerFeatures : Type := FeatureSet 13

def ControllerFeatures.ofList (fs : List ControllerFeature) : ControllerFeatures :=
  .ofNumbers (fs.map ControllerFeature.number)

/-- Features of a node. -/
inductive NodeFeature where
  | stageUnstageVolume | getVolumeStats | expandVolume | volumeCondition | singleNodeMultiWriter
  deriving DecidableEq, Repr

def NodeFeature.number (f : NodeFeature) : Nat := f.ctorIdx + 1

abbrev NodeFeatures : Type := FeatureSet 5

def NodeFeatures.ofList (fs : List NodeFeature) : NodeFeatures := .ofNumbers (fs.map NodeFeature.number)

end VolumeDriver.Csi
