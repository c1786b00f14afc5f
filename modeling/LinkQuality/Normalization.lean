import LinkQuality.Binary64.Shortest
import LinkQuality.Feature

/-!
# Normalization

A model is trained on values that have been centred and scaled. The statistics of the training data
give a mean and a standard deviation for each of the 45 values of a summary: 15 for the last
interval, 15 for the means and 15 for the standard deviations over the history.

The means of the first 15 also stand in for features that cannot be measured.
-/

namespace LinkQuality

/-- The number of values in a summary. -/
def summarySize : Nat := 45

/-- A mean and a standard deviation for each value of a summary. -/
structure Normalization (α : Type) where
  means : Vector α 45
  stds : Vector α 45

namespace Normalization

/-- Why statistics are refused. -/
inductive Fault (α : Type) where
  | length (actual : Nat)
  | meanNotFinite (index : Nat)
  | stdInvalid (index : Nat) (value : α)
  deriving DecidableEq, Repr

/-- The text of a fault in messages. -/
def Fault.message : Fault Float → String
  | .length actual => s!"normalization table needs {summarySize} entries, got {actual}"
  | .meanNotFinite index => s!"normalization mean for feature {index} is not finite"
  | .stdInvalid index value =>
    s!"normalization std for feature {index} must be finite and non-zero, got {Binary64.text value}"

variable {α : Type} [Scalar α]

/-- Whether a value can be divided by. -/
def isDivisor (x : α) : Bool := Scalar.isFinite x && !(x == 0)

/-- The statistics that two lists hold: 45 finite means and 45 finite standard deviations other
than zero. Of several faults, a wrong length comes first, then the first bad mean. -/
def ofLists (means stds : List α) : Except (Fault α) (Normalization α) :=
  if hm : means.length = 45 then
    if hs : stds.length = 45 then
      match means.findIdx? fun x => !Scalar.isFinite x with
      | some index => .error (.meanNotFinite index)
      | none =>
        match stds.zipIdx.find? fun entry => !isDivisor entry.1 with
        | some (value, index) => .error (.stdInvalid index value)
        | none =>
          .ok ⟨⟨means.toArray, by simpa using hm⟩, ⟨stds.toArray, by simpa using hs⟩⟩
    else .error (.length stds.length)
  else .error (.length means.length)

/-- Statistics that change nothing. -/
def identity : Normalization α := ⟨Vector.replicate 45 0, Vector.replicate 45 1⟩

/-- What stands in for a feature that cannot be measured. -/
def featureMean (norm : Normalization α) (feature : Feature) : α :=
  norm.means.get (feature.index.castLE (by decide))

/-- Centres and scales the value at a place of a summary. -/
def standardize (norm : Normalization α) (place : Fin 45) (value : α) : α :=
  (value - norm.means[place]) / norm.stds[place]

end Normalization

end LinkQuality
