import Mathlib.Tactic.FieldSimp
import Mathlib.Tactic.NormNum
import Mathlib.Tactic.Ring
import LinkQuality.Proofs.Exact
import LinkQuality.Trend.Filter

/-!
# The covariance of the filter

In exact arithmetic the covariance of a value and its velocity stays one: the variances are not
negative, and the square of the covariance is at most their product. The covariance itself is not
negative either, since accelerations move both states in the same direction.

The bound on the square is what a reading needs. It takes a part of the variance of the velocity
that is proportional to the square of the covariance, and without the bound that could be more than
there is. How far the bound is from being reached, the determinant, grows as time passes and shrinks
by a fixed share with a reading; it starts from zero.

## Main definitions

* `Trend.Covariance`: three numbers that describe a covariance, and how time and readings move them
* `Trend.Covariance.IsSound`: whether they can
* `Trend.Filter.HasCovariance`: the numbers of a filter

## Main results

* `Covariance.determinant_predict`, `Covariance.determinant_correct`: the determinant
* `Covariance.IsSound.predict`, `Covariance.IsSound.correct`: time and readings keep it sound
* `Filter.HasCovariance.predict`, `Filter.HasCovariance.correct`: the filter follows
-/

namespace LinkQuality.Trend

/-- The variances of a value and its velocity, and their covariance. -/
structure Covariance (K : Type) where
  value : K
  cross : K
  velocity : K

namespace Covariance

variable {K : Type} [Field K]

/-- The covariance after some time with random accelerations of a given variance. -/
def predict (acceleration seconds : K) (P : Covariance K) : Covariance K where
  value := P.value + seconds * (P.cross + P.cross) + seconds * seconds * P.velocity +
    0.5 * seconds * seconds * (0.5 * seconds * seconds) * acceleration
  cross := P.cross + seconds * P.velocity + 0.5 * seconds * seconds * seconds * acceleration
  velocity := P.velocity + seconds * seconds * acceleration

/-- The covariance after a reading of a given variance. -/
def correct (reading : K) (P : Covariance K) : Covariance K where
  value := P.value - P.value / (P.value + reading) * P.value
  cross := P.cross - P.value / (P.value + reading) * P.cross
  velocity := P.velocity - P.cross / (P.value + reading) * P.cross

/-- The determinant of the matrix that the numbers form. -/
def determinant (P : Covariance K) : K := P.value * P.velocity - P.cross * P.cross

/-- Time adds to the determinant. -/
theorem determinant_predict [CharZero K] (acceleration seconds : K) (P : Covariance K) :
    (P.predict acceleration seconds).determinant =
      P.determinant + seconds * seconds * acceleration *
        (P.value + seconds * P.cross + seconds * seconds * P.velocity / 4) := by
  simp only [determinant, predict]
  ring

/-- A reading shrinks the determinant as it does the variance of the value. -/
theorem determinant_correct {reading : K} {P : Covariance K} (total : P.value + reading ≠ 0) :
    (P.correct reading).determinant = P.determinant * (reading / (P.value + reading)) := by
  simp only [determinant, correct]
  field_simp
  ring

/-- A reading leaves of the variance of the value the share that was its own part of the sum. -/
theorem value_correct {reading : K} {P : Covariance K} (total : P.value + reading ≠ 0) :
    (P.correct reading).value = P.value * (reading / (P.value + reading)) := by
  simp only [correct]
  field_simp
  ring

theorem cross_correct {reading : K} {P : Covariance K} (total : P.value + reading ≠ 0) :
    (P.correct reading).cross = P.cross * (reading / (P.value + reading)) := by
  simp only [correct]
  field_simp
  ring

variable [LinearOrder K]

/-- Whether numbers describe a covariance of a value with a velocity that moves it. -/
structure IsSound (P : Covariance K) : Prop where
  value_nonneg : 0 ≤ P.value
  cross_nonneg : 0 ≤ P.cross
  velocity_nonneg : 0 ≤ P.velocity
  determinant_nonneg : 0 ≤ P.determinant

/-- A value may be uncertain while its velocity is not. -/
theorem isSound_of_value {value : K} (nonneg : 0 ≤ value) :
    (⟨value, 0, 0⟩ : Covariance K).IsSound where
  value_nonneg := nonneg
  cross_nonneg := le_rfl
  velocity_nonneg := le_rfl
  determinant_nonneg := by simp [determinant]

variable [IsStrictOrderedRing K] {P : Covariance K}

theorem IsSound.predict (sound : P.IsSound) {acceleration seconds : K}
    (acceleration_nonneg : 0 ≤ acceleration) (seconds_nonneg : 0 ≤ seconds) :
    (P.predict acceleration seconds).IsSound := by
  obtain ⟨value_nonneg, cross_nonneg, velocity_nonneg, determinant_nonneg⟩ := sound
  constructor
  · dsimp only [Covariance.predict]
    positivity
  · dsimp only [Covariance.predict]
    positivity
  · dsimp only [Covariance.predict]
    positivity
  · rw [determinant_predict]
    positivity

/-- The variance of a prediction and of a reading add up to more than nothing, so that a reading can
be weighed against the prediction. -/
theorem IsSound.total_pos (sound : P.IsSound) {reading : K} (reading_pos : 0 < reading) :
    0 < P.value + reading :=
  add_pos_of_nonneg_of_pos sound.value_nonneg reading_pos

theorem IsSound.correct (sound : P.IsSound) {reading : K} (reading_pos : 0 < reading) :
    (P.correct reading).IsSound := by
  have total_pos := sound.total_pos reading_pos
  have share_nonneg : 0 ≤ reading / (P.value + reading) := by positivity
  constructor
  · rw [value_correct total_pos.ne']
    exact mul_nonneg sound.value_nonneg share_nonneg
  · rw [cross_correct total_pos.ne']
    exact mul_nonneg sound.cross_nonneg share_nonneg
  · -- What a reading takes from the variance of the velocity is bounded by the determinant.
    have bound : P.cross * P.cross ≤ P.velocity * (P.value + reading) := by
      have determinant_nonneg := sound.determinant_nonneg
      have rest_nonneg := mul_nonneg sound.velocity_nonneg reading_pos.le
      rw [determinant] at determinant_nonneg
      linarith
    dsimp only [Covariance.correct]
    rw [sub_nonneg, div_mul_eq_mul_div]
    exact (div_le_iff₀ total_pos).mpr bound
  · rw [determinant_correct total_pos.ne']
    exact mul_nonneg sound.determinant_nonneg share_nonneg

end Covariance

namespace Filter

variable {K : Type} [Field K] [LinearOrder K] [FloorRing K]

/-- Whether the covariance of a filter is made of given numbers. -/
structure HasCovariance (P : Covariance K) (filter : Filter (Exact K)) : Prop where
  value : filter.valueVariance = .number P.value
  cross : filter.covariance = .number P.cross
  velocity : filter.velocityVariance = .number P.velocity

variable {filter : Filter (Exact K)} {P : Covariance K} {noise : Noise (Exact K)}

theorem HasCovariance.predict (has : filter.HasCovariance P) {acceleration : K}
    (isNumber : noise.acceleration = .number acceleration) (seconds : K) :
    (filter.predict noise (.number seconds)).HasCovariance (P.predict acceleration seconds) := by
  constructor
  · have twice : 2 * seconds * P.cross = seconds * (P.cross + P.cross) := by ring
    simp [Filter.predict, Covariance.predict, has.value, has.cross, has.velocity, isNumber,
      Exact.ofNat_eq, twice]
  · simp [Filter.predict, Covariance.predict, has.cross, has.velocity, isNumber]
  · simp [Filter.predict, Covariance.predict, has.velocity, isNumber]

theorem HasCovariance.correct (has : filter.HasCovariance P) {variance : K}
    (isNumber : noise.reading = .number variance) (total : P.value + variance ≠ 0)
    (reading : Exact K) : (filter.correct noise reading).HasCovariance (P.correct variance) := by
  constructor
  · simp [Filter.correct, Covariance.correct, has.value, isNumber, Exact.number_div total]
  · simp [Filter.correct, Covariance.correct, has.value, has.cross, isNumber,
      Exact.number_div total]
  · simp [Filter.correct, Covariance.correct, has.value, has.cross, has.velocity, isNumber,
      Exact.number_div total]

end Filter

end LinkQuality.Trend
