import LinkQuality.Settings.Basic

/-!
# The filter of the signal strength

A Kalman filter with two states: a value and its velocity. Readings come at irregular times, so each
step is taken with the time that has passed, and between readings the velocity drifts as if driven
by random accelerations.

The covariance of the two states is symmetric and kept as three numbers. A filter that has not seen
a reading has no value; its numbers are zero.

## Main definitions

* `Trend.Noise`: the variances the filter assumes
* `Trend.Filter`: its state
* `Filter.start`, `Filter.predict`, `Filter.update`: its steps
* `Filter.ahead`: where the trend leads
-/

namespace LinkQuality.Trend

/-- The variances of a reading and of the acceleration. -/
structure Noise (α : Type) where
  reading : α
  acceleration : α
  deriving Repr

/-- The variances that belong to standard deviations. -/
def Noise.ofStds {α : Type} [Scalar α] (readingStd accelerationStd : α) : Noise α :=
  ⟨readingStd * readingStd, accelerationStd * accelerationStd⟩

/-- The state of the filter. -/
structure Filter (α : Type) where
  hasStarted : Bool
  value : α
  /-- The change of the value in a second. -/
  velocity : α
  valueVariance : α
  covariance : α
  velocityVariance : α
  deriving Repr

namespace Filter

variable {α : Type} [Scalar α]

/-- The filter before any reading. -/
def blank : Filter α := ⟨false, 0, 0, 0, 0, 0⟩

/-- The filter after a first reading. The value is as uncertain as three standard deviations, and
the velocity is taken to be zero exactly. -/
def start (noise : Noise α) (reading : α) : Filter α :=
  ⟨true, reading, 0, 9 * noise.reading, 0, 0⟩

/-- Lets time pass. -/
def predict (noise : Noise α) (seconds : α) (filter : Filter α) : Filter α :=
  -- Where a constant acceleration of one leads in this time.
  let valueGain := 0.5 * seconds * seconds
  { filter with
    value := filter.value + filter.velocity * seconds
    valueVariance :=
      filter.valueVariance + 2 * seconds * filter.covariance +
        seconds * seconds * filter.velocityVariance + valueGain * valueGain * noise.acceleration
    covariance :=
      filter.covariance + seconds * filter.velocityVariance +
        valueGain * seconds * noise.acceleration
    velocityVariance := filter.velocityVariance + seconds * seconds * noise.acceleration }

/-- Takes in a reading at the present time. -/
def correct (noise : Noise α) (reading : α) (filter : Filter α) : Filter α :=
  let innovation := reading - filter.value
  let innovationVariance := filter.valueVariance + noise.reading
  let valueGain := filter.valueVariance / innovationVariance
  let velocityGain := filter.covariance / innovationVariance
  { filter with
    value := filter.value + valueGain * innovation
    velocity := filter.velocity + velocityGain * innovation
    valueVariance := filter.valueVariance - valueGain * filter.valueVariance
    covariance := filter.covariance - valueGain * filter.covariance
    velocityVariance := filter.velocityVariance - velocityGain * filter.covariance }

/-- Takes in a reading some time after the one before it. The first reading starts the filter. -/
def update (noise : Noise α) (reading seconds : α) (filter : Filter α) : Filter α :=
  if filter.hasStarted then (filter.predict noise seconds).correct noise reading
  else start noise reading

/-- The value that the trend leads to. -/
def ahead (seconds : α) (filter : Filter α) : α := filter.value + filter.velocity * seconds

/-- The standard deviation of the value. -/
def uncertainty [SquareRoot α] (filter : Filter α) : α := SquareRoot.sqrt filter.valueVariance

end Filter

end LinkQuality.Trend
