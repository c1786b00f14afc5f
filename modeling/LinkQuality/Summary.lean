import LinkQuality.History

/-!
# Summaries

What a model sees of a history: for each feature the value of the last interval, the mean and the
standard deviation over the history, each normalized.

An undefined value is replaced by the mean of the defined ones or, if there are none, by the
average of the training data. So replaced values lie on the mean and add nothing to the standard
deviation, which is still taken over all intervals.

## Main definitions

* `Summary`: the 45 values
* `History.summary?`: the summary of a history
-/

namespace LinkQuality

/-- What a model sees of a history, feature by feature. -/
structure Summary (α : Type) where
  last : Vector α 15
  mean : Vector α 15
  std : Vector α 15

namespace Summary

variable {α : Type}

/-- The values of a summary, in the order that models are trained on. -/
def toVector (summary : Summary α) : Vector α 45 := summary.last ++ summary.mean ++ summary.std

/-- The values of a summary as a list. -/
def toList (summary : Summary α) : List α := summary.toVector.toList

variable [Scalar α]

/-- Centres and scales every value with the statistics of its own place. -/
def normalize (summary : Summary α) (norm : Normalization α) : Summary α where
  last := .ofFn fun i => norm.standardize ⟨i, by omega⟩ (summary.last.get i)
  mean := .ofFn fun i => norm.standardize ⟨15 + i, by omega⟩ (summary.mean.get i)
  std := .ofFn fun i => norm.standardize ⟨30 + i, by omega⟩ (summary.std.get i)

/-- The mean of the defined values of a column, or a given value if there are none. -/
def meanOfDefined (column : List α) (otherwise : α) : α :=
  let defined := column.filter fun x => !Scalar.isUndefined x
  if defined.isEmpty then otherwise
  else defined.foldl (· + ·) 0 / Scalar.ofNat defined.length

/-- Replaces an undefined value. -/
def impute (mean x : α) : α := if Scalar.isUndefined x then mean else x

/-- The standard deviation of a column around its mean, undefined values being replaced by the
mean. -/
def deviation [SquareRoot α] (mean : α) (column : List α) : α :=
  -- A value that was replaced adds nothing to the sum, but counts as one of its terms.
  let squares := column.map fun x => (impute mean x - mean) * (impute mean x - mean)
  SquareRoot.sqrt (Scalar.total squares / Scalar.ofNat column.length)

end Summary

namespace History

variable {α : Type} [Scalar α]

/-- The values of one feature, oldest first. -/
def column (history : History α) (feature : Feature) : List α :=
  history.intervals.map fun interval => interval.feature feature

/-- The mean of a feature over the history. -/
def mean (history : History α) (norm : Normalization α) (feature : Feature) : α :=
  Summary.meanOfDefined (history.column feature) (norm.featureMean feature)

/-- The normalized summary of a history; there is none of an empty one. -/
def summary? [SquareRoot α] (history : History α) (norm : Normalization α) : Option (Summary α) :=
  history.last?.map fun last =>
    let summary : Summary α :=
      { last := Feature.all.map fun f => Summary.impute (history.mean norm f) (last.feature f)
        mean := Feature.all.map fun f => history.mean norm f
        std := Feature.all.map fun f =>
          Summary.deviation (history.mean norm f) (history.column f) }
    summary.normalize norm

end History

end LinkQuality
